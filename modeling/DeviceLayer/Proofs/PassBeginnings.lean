import DeviceLayer.Proofs.FrameProtocol
import DeviceLayer.Proofs.GenuineObjects
import DeviceLayer.Proofs.PassViewports

/-!
# Where render passes begin

A render pass begins over what its attachments are at that time: the views that their images have,
each with its own clear flag, in the order in which they were given. The images have one extent, and
the area that is drawn to is inside it, as is every viewport until the pass ends. Which render
passes and framebuffers the device has from before makes no difference.

* `Gpu.Attaches` — an attachment and what is drawn to for it.
* `Recording.Begun` — the render pass that has begun.
* `Gpu.Refused` — why none can begin.
* `Client.passes_begin` — the whole statement.
-/

namespace DeviceLayer

open DeviceLayer.Action

/-- The area has pixels, and all of them are inside an extent. -/
structure RenderArea.Within (area : RenderArea) (width height : UInt32) : Prop where
  columns : area.x0 < area.x1
  rows : area.y0 < area.y1
  right : area.x1 ≤ width
  bottom : area.y1 ≤ height

namespace RenderArea

variable {area : RenderArea} {width height : UInt32}

theorem width_ne_zero_iff : area.width ≠ 0 ↔ area.x0 < area.x1 := by
  rw [Ne, ← UInt32.toNat_inj, toNat_width, UInt32.lt_iff_toNat_lt, UInt32.toNat_zero]
  omega

theorem height_ne_zero_iff : area.height ≠ 0 ↔ area.y0 < area.y1 := by
  rw [Ne, ← UInt32.toNat_inj, toNat_height, UInt32.lt_iff_toNat_lt, UInt32.toNat_zero]
  omega

theorem within_iff :
    area.Within width height ↔
      (area.width ≠ 0 && area.height ≠ 0 && area.x1 ≤ width && area.y1 ≤ height) = true := by
  simp only [Bool.and_eq_true, decide_eq_true_eq, width_ne_zero_iff, height_ne_zero_iff]
  exact ⟨fun h => ⟨⟨⟨h.columns, h.rows⟩, h.right⟩, h.bottom⟩,
    fun h => ⟨h.1.1.1, h.1.1.2, h.1.2, h.2⟩⟩

end RenderArea

/-- Whether images of a format can be attached, for their depth or for their color. -/
def TextureFormat.suits (depth : Bool) (format : TextureFormat) : Bool :=
  format.bufferFormat?.any fun f => f.isDepth == depth

theorem forall₂_exists_left {α β : Type} {R : α → β → Prop} {xs : List α} {ys : List β}
    (h : List.Forall₂ R xs ys) {y : β} (member : y ∈ ys) : ∃ x ∈ xs, R x y := by
  induction h with
  | nil => cases member
  | cons here _ ih =>
    rcases List.mem_cons.1 member with rfl | later
    · exact ⟨_, List.mem_cons_self, here⟩
    · obtain ⟨x, inside, related⟩ := ih later
      exact ⟨x, List.mem_cons_of_mem _ inside, related⟩

namespace Gpu

/-- An attachment that the device can draw to, for its depth or for its color, and what is drawn to:
the view that the image has now, with the clear flag of the attachment. -/
structure Attaches (g : Gpu) (extent : UInt32 × UInt32) (depth : Bool) (a : Attachment)
    (drawn : NativeAttachment) : Prop where
  own : a.image.device = g.id
  image : ∃ i, g.images.get? a.image.id = some i ∧ i.view = some drawn.1 ∧
    (i.width, i.height) = extent ∧ i.format.suits depth = true
  clear : drawn.2 = a.clear

/-- Why no render pass can begin. -/
inductive Refused (list : CommandList) (g : Gpu) (area : RenderArea) (colors : List Attachment)
    (depth : Option Attachment) : Prop where
  | insidePass (inside : list.target ≠ none)
  | nothing (none : attached colors depth = [])
  | foreign {image : Allocation} (member : image ∈ attached colors depth)
    (other : image.device ≠ g.id)
  | unknown {image : Allocation} (member : image ∈ attached colors depth)
    (missing : g.images.get? image.id = none)
  | noView {image : Allocation} {i : Image} (member : image ∈ attached colors depth)
    (known : g.images.get? image.id = some i) (hidden : i.view = none)
  | extents {image image' : Allocation} {i i' : Image} (member : image ∈ attached colors depth)
    (member' : image' ∈ attached colors depth) (known : g.images.get? image.id = some i)
    (known' : g.images.get? image'.id = some i')
    (apart : (i.width, i.height) ≠ (i'.width, i'.height))
  | color {a : Attachment} {i : Image} (member : a ∈ colors)
    (known : g.images.get? a.image.id = some i) (misfit : i.format.suits false = false)
  | depth {a : Attachment} {i : Image} (given : depth = some a)
    (known : g.images.get? a.image.id = some i) (misfit : i.format.suits true = false)
  | emptyArea (empty : area.x1 ≤ area.x0 ∨ area.y1 ≤ area.y0)
  | largeArea {image : Allocation} {i : Image} (member : image ∈ attached colors depth)
    (known : g.images.get? image.id = some i) (past : i.width < area.x1 ∨ i.height < area.y1)

theorem attached_eq (colors : List Attachment) (depth : Option Attachment) :
    attached colors depth = (colors ++ depth.toList).map (·.image) := by
  cases depth <;> simp [attached]

end Gpu

namespace Recording

/-! ## Resolving attachments -/

/-- An attachment that was resolved to a format and a view, in a pass of an extent. -/
structure Resolved (g : Gpu) (extent : Option (UInt32 × UInt32)) (a : Attachment)
    (found : BufferFormat × Texture) : Prop where
  own : a.image.device = g.id
  image : ∃ i, g.images.get? a.image.id = some i ∧ i.view = some found.2 ∧
    extent = some (i.width, i.height) ∧ i.format.bufferFormat? = some found.1

/-- Why an attachment is not resolved, in a pass whose extent may be given already. -/
inductive Unresolved (g : Gpu) (extent : Option (UInt32 × UInt32)) (a : Attachment) : Prop where
  | foreign (other : a.image.device ≠ g.id)
  | unknown (missing : g.images.get? a.image.id = none)
  | noView {i : Image} (known : g.images.get? a.image.id = some i) (hidden : i.view = none)
  | extent {i : Image} {e : UInt32 × UInt32} (known : g.images.get? a.image.id = some i)
    (given : extent = some e) (apart : e ≠ (i.width, i.height))
  | format {i : Image} (known : g.images.get? a.image.id = some i)
    (foreign : i.format.bufferFormat? = none)

/-- A call was refused, its caller having broken a rule. -/
def Declined (e : Fault) : Prop := ∃ cause, e = .device (.precondition cause)

theorem wp_resolveAttachment (extent : Option (UInt32 × UInt32)) (a : Attachment)
    (s : Live Gpu) :
    (resolveAttachment extent a).wp
      (fun found t => t = s ∧ Resolved s.device (some found.2.2) a (found.1, found.2.1) ∧
        ∀ e, extent = some e → e = found.2.2)
      (fun e t => t = s ∧ Declined e ∧ Unresolved s.device extent a) s := by
  simp only [resolveAttachment, Gpu.imageTarget, Gpu.checkLocal, Gpu.image, wp_bind, Live.wp_self,
    wp_require, wp_orRefuse, wp_pure, decide_eq_true_eq, decide_eq_false_iff_not, true_and]
  refine ⟨fun own => ⟨fun i known => ⟨fun view shown => ⟨fun same => ⟨fun format named => ?_, ?_⟩,
    ?_⟩, ?_⟩, ?_⟩, ?_⟩
  · refine ⟨⟨own, i, known, shown, congrArg some same, named⟩, ?_⟩
    rintro e rfl
    rfl
  · exact fun foreign => ⟨⟨_, rfl⟩, .format known foreign⟩
  · intro apart
    refine ⟨⟨_, rfl⟩, ?_⟩
    cases extent with
    | none => exact absurd rfl apart
    | some e => exact .extent known rfl apart
  · exact fun hidden => ⟨⟨_, rfl⟩, .noView known hidden⟩
  · exact fun missing => ⟨⟨_, rfl⟩, .unknown missing⟩
  · exact fun other => ⟨⟨_, rfl⟩, .foreign other⟩

/-- Color attachments as they are collected, with what each was resolved to. -/
structure Collected (g : Gpu) (done : List Attachment) (c : Attachments)
    (found : List (BufferFormat × Texture)) : Prop where
  each : List.Forall₂ (Resolved g c.extent) done found
  formats : c.formats.map (·.1) = found.map (·.1)
  clears : c.formats.map (·.2) = done.map (·.clear)
  images : c.images = done.map (·.image)
  views : c.views = found.map (·.2)
  start : done = [] → c.extent = none

variable {g : Gpu} {done : List Attachment} {c : Attachments}
  {found : List (BufferFormat × Texture)}

/-- Once there is an extent it is that of an image. -/
theorem Collected.exists_of_extent (h : Collected g done c found) {e : UInt32 × UInt32}
    (given : c.extent = some e) :
    ∃ a ∈ done, ∃ i, g.images.get? a.image.id = some i ∧ (i.width, i.height) = e := by
  cases done with
  | nil => cases given.symm.trans (h.start rfl)
  | cons a done =>
    obtain ⟨_, _, ⟨-, i, known, -, extent, -⟩, -, -⟩ := List.forall₂_cons_left_iff.1 h.each
    exact ⟨a, List.mem_cons_self, i, known, Option.some.inj (extent.symm.trans given)⟩

/-- There is an extent as soon as there is an attachment. -/
theorem Collected.eq_nil (h : Collected g done c found) (none : c.extent = none) : done = [] := by
  cases done with
  | nil => rfl
  | cons a done =>
    obtain ⟨_, _, ⟨-, i, -, -, extent, -⟩, -, -⟩ := List.forall₂_cons_left_iff.1 h.each
    cases none.symm.trans extent

/-- Any extent that an attachment to come agrees on is that of those before it. -/
theorem Collected.each_of_extent (h : Collected g done c found) {e : UInt32 × UInt32}
    (same : ∀ e', c.extent = some e' → e' = e) :
    List.Forall₂ (Resolved g (some e)) done found := by
  cases given : c.extent with
  | none =>
    obtain rfl := h.eq_nil given
    obtain rfl := List.forall₂_nil_left_iff.1 h.each
    exact .nil
  | some e' =>
    obtain rfl := same e' given
    exact given ▸ h.each

theorem Collected.wp_add {s : Live Gpu} (h : Collected s.device done c found) (a : Attachment) :
    (c.add a).wp (fun c' t => t = s ∧ ∃ found, Collected s.device (done ++ [a]) c' found)
      (fun e t => t = s ∧ Declined e ∧ Unresolved s.device c.extent a) s := by
  simp only [Attachments.add, wp_bind]
  refine (wp_resolveAttachment c.extent a s).mono ?_ fun _ _ failed => failed
  rintro ⟨format, view, extent⟩ _ ⟨rfl, resolved, same⟩
  rw [wp_pure]
  refine ⟨rfl, found ++ [(format, view)], ?_, ?_, ?_, ?_, ?_, ?_⟩
  · exact List.rel_append (h.each_of_extent same) (.cons resolved .nil)
  · simp [h.formats]
  · simp [h.clears]
  · simp [h.images]
  · simp [h.views]
  · simp

variable {list : CommandList} {area : RenderArea} {colors : List Attachment}
  {depth : Option Attachment}

/-- Where an attachment is not resolved no render pass begins. -/
theorem Unresolved.refused {extent : Option (UInt32 × UInt32)} {a : Attachment}
    (h : Unresolved g extent a) (member : a ∈ colors ++ depth.toList)
    (first : ∀ e, extent = some e →
      ∃ a' ∈ colors, ∃ i, g.images.get? a'.image.id = some i ∧ (i.width, i.height) = e) :
    Gpu.Refused list g area colors depth := by
  have attached {a : Attachment} (member : a ∈ colors ++ depth.toList) :
      a.image ∈ Gpu.attached colors depth := by
    rw [Gpu.attached_eq]
    exact List.mem_map_of_mem member
  cases h with
  | foreign other => exact .foreign (attached member) other
  | unknown missing => exact .unknown (attached member) missing
  | noView known hidden => exact .noView (attached member) known hidden
  | extent known given apart =>
    obtain ⟨a', before, i', known', rfl⟩ := first _ given
    exact .extents (attached (List.mem_append_left _ before)) (attached member) known' known apart
  | @format i known foreign =>
    have misfit (depth : Bool) : i.format.suits depth = false := by
      rw [TextureFormat.suits, foreign]
      rfl
    rcases List.mem_append.1 member with color | deep
    · exact .color color known (misfit false)
    · exact .depth (Option.mem_toList.1 deep) known (misfit true)

theorem Collected.wp_foldlM {s : Live Gpu} {rest : List Attachment}
    (h : Collected s.device done c found) (parts : colors = done ++ rest) :
    (rest.foldlM Attachments.add c).wp
      (fun c t => t = s ∧ ∃ found, Collected s.device colors c found)
      (fun e t => t = s ∧ Declined e ∧ Gpu.Refused list s.device area colors depth) s := by
  induction rest generalizing done c found with
  | nil =>
    obtain rfl := parts.trans (List.append_nil done)
    exact ⟨rfl, found, h⟩
  | cons a rest ih =>
    rw [List.foldlM_cons, wp_bind]
    refine (h.wp_add a).mono ?_ ?_
    · rintro c' _ ⟨rfl, found', h'⟩
      exact ih h' (by rw [parts, List.append_assoc, List.singleton_append])
    · rintro e _ ⟨rfl, declined, unresolved⟩
      subst parts
      refine ⟨rfl, declined, unresolved.refused (by simp) fun e given => ?_⟩
      obtain ⟨a', before, shown⟩ := h.exists_of_extent given
      exact ⟨a', List.mem_append_left _ before, shown⟩

theorem Collected.wp_depth {s : Live Gpu} (h : Collected s.device colors c found) :
    (depth.mapM (resolveAttachment c.extent)).wp
      (fun d t => t = s ∧ Option.Rel (fun a f => Resolved s.device (some f.2.2) a (f.1, f.2.1) ∧
        ∀ e, c.extent = some e → e = f.2.2) depth d)
      (fun e t => t = s ∧ Declined e ∧ Gpu.Refused list s.device area colors depth) s := by
  cases depth with
  | none => exact ⟨rfl, .none⟩
  | some a =>
    refine (wp_map _ _).2 ((wp_resolveAttachment c.extent a s).mono ?_ ?_)
    · rintro f _ ⟨rfl, resolved, same⟩
      exact ⟨rfl, .some ⟨resolved, same⟩⟩
    · rintro e _ ⟨rfl, declined, unresolved⟩
      exact ⟨rfl, declined, unresolved.refused (by simp) fun e given => h.exists_of_extent given⟩

/-! ## The render pass of the attachments -/

/-- All attachments of a pass, resolved in one extent. -/
structure Gathered (g : Gpu) (colors : List Attachment) (depth : Option Attachment)
    (extent : UInt32 × UInt32) (c : Attachments) (found : List (BufferFormat × Texture))
    (d : Option (BufferFormat × Texture × (UInt32 × UInt32))) : Prop where
  collected : Collected g colors c found
  ofColors : List.Forall₂ (Resolved g (some extent)) colors found
  ofDepth : Option.Rel (fun a f => Resolved g (some extent) a (f.1, f.2.1)) depth d
  nonempty : Gpu.attached colors depth ≠ []

variable {extent : UInt32 × UInt32} {d : Option (BufferFormat × Texture × (UInt32 × UInt32))}

theorem Collected.gathered (h : Collected g colors c found)
    (deep : Option.Rel (fun a f => Resolved g (some f.2.2) a (f.1, f.2.1) ∧
      ∀ e, c.extent = some e → e = f.2.2) depth d)
    (given : (c.extent <|> d.map (·.2.2)) = some extent) :
    Gathered g colors depth extent c found d := by
  cases deep with
  | none =>
    have given : c.extent = some extent := by simpa using given
    refine ⟨h, given ▸ h.each, .none, ?_⟩
    rw [Gpu.attached_eq]
    rintro none
    have none := h.start (by simpa using none)
    cases given.symm.trans none
  | @some a f deep =>
    obtain ⟨resolved, same⟩ := deep
    obtain rfl : f.2.2 = extent := by
      cases before : c.extent with
      | none => simpa [before] using given
      | some e =>
        obtain rfl := same e before
        simpa [before] using given
    exact ⟨h, h.each_of_extent same, .some resolved, by simp [Gpu.attached_eq]⟩

/-- Without an extent there is no attachment. -/
theorem Collected.nothing (h : Collected g colors c found)
    {R : Attachment → BufferFormat × Texture × (UInt32 × UInt32) → Prop}
    (deep : Option.Rel R depth d) (none : (c.extent <|> d.map (·.2.2)) = none) :
    Gpu.attached colors depth = [] := by
  cases deep with
  | none =>
    obtain rfl := h.eq_nil (by simpa using none)
    rfl
  | some => simp at none

/-- The render pass that attachments are run in. -/
def passDesc (c : Attachments) (depth : Option Attachment)
    (d : Option (BufferFormat × Texture × (UInt32 × UInt32))) : RenderPassDesc :=
  { colors := c.formats, depth := d.map (·.1), clearDepth := (depth.map (·.clear)).getD false }

theorem Resolved.native {a : Attachment} {f : BufferFormat × Texture}
    (h : Resolved g (some extent) a f) : f.1.texture?.isSome = true := by
  obtain ⟨-, i, -, -, -, named⟩ := h
  rw [TextureFormat.texture?_of_bufferFormat? named]
  rfl

theorem Resolved.attaches {a : Attachment} {f : BufferFormat × Texture}
    (h : Resolved g (some extent) a f) : Gpu.Attaches g extent f.1.isDepth a (f.2, a.clear) := by
  obtain ⟨own, i, known, shown, same, named⟩ := h
  have fits : i.format.suits f.1.isDepth = true := by simp [TextureFormat.suits, named]
  exact ⟨own, ⟨i, known, shown, (Option.some.inj same).symm, fits⟩, rfl⟩

/-- The images of a pass are there, and have its extent. -/
theorem Gathered.known (h : Gathered g colors depth extent c found d) :
    ∀ image ∈ Gpu.attached colors depth, ∃ i, g.images.get? image.id = some i ∧
      (i.width, i.height) = extent := by
  rw [Gpu.attached_eq]
  intro image member
  obtain ⟨a, given, rfl⟩ := List.mem_map.1 member
  have resolved : ∃ f, Resolved g (some extent) a f := by
    rcases List.mem_append.1 given with color | deep
    · obtain ⟨f, -, resolved⟩ := forall₂_exists_left h.ofColors.flip color
      exact ⟨f, resolved⟩
    · obtain ⟨⟩ := Option.mem_toList.1 deep
      cases h.ofDepth with
      | some resolved => exact ⟨_, resolved⟩
  obtain ⟨_, -, i, known, -, same, -⟩ := resolved
  exact ⟨i, known, (Option.some.inj same).symm⟩

/-- A color of the render pass is the format of an attachment. -/
theorem Gathered.exists_of_mem (h : Gathered g colors depth extent c found d)
    {color : BufferFormat × Bool} (member : color ∈ c.formats) :
    ∃ a ∈ colors, ∃ view, Resolved g (some extent) a (color.1, view) := by
  have named := List.mem_map_of_mem (f := (·.1)) member
  rw [h.collected.formats] at named
  obtain ⟨⟨format, view⟩, found, rfl⟩ := List.mem_map.1 named
  obtain ⟨a, given, resolved⟩ := forall₂_exists_left h.ofColors found
  exact ⟨a, given, view, resolved⟩

theorem Gathered.native (h : Gathered g colors depth extent c found d) :
    (passDesc c depth d).Native where
  colors color member := by
    obtain ⟨_, _, _, resolved⟩ := h.exists_of_mem member
    exact resolved.native
  depth format given := by
    obtain ⟨f, found, rfl⟩ := Option.map_eq_some_iff.1 given
    cases h.ofDepth with
    | none => cases found
    | some resolved =>
      cases found
      exact resolved.native

/-- Where a format does not fit its role no render pass begins. -/
theorem Gathered.refused (h : Gathered g colors depth extent c found d)
    (misfit : ¬(passDesc c depth d).Fits) : Gpu.Refused list g area colors depth := by
  by_contra begins
  refine misfit ⟨fun color member => ?_, fun format given => ?_⟩
  · obtain ⟨a, given, view, resolved⟩ := h.exists_of_mem member
    by_contra isDepth
    obtain ⟨-, i, known, -, -, named⟩ := resolved
    exact begins (.color given known (by simp [TextureFormat.suits, named, isDepth]))
  · obtain ⟨f, found, rfl⟩ := Option.map_eq_some_iff.1 given
    by_contra isColor
    cases h.ofDepth with
    | none => cases found
    | some resolved =>
      cases found
      obtain ⟨-, i, known, -, -, named⟩ := resolved
      exact begins (.depth rfl known (by simp [TextureFormat.suits, named, isColor]))

theorem attaches_of_resolved (each : List.Forall₂ (Resolved g (some extent)) colors found)
    (fit : ∀ f ∈ found, f.1.isDepth = false) :
    List.Forall₂ (Gpu.Attaches g extent false) colors
      ((found.map (·.2)).zip (colors.map (·.clear))) := by
  induction each with
  | nil => exact .nil
  | cons resolved _ ih =>
    obtain ⟨here, later⟩ := List.forall_mem_cons.1 fit
    exact .cons (here ▸ resolved.attaches) (ih later)

/-- Outside of the extent no render pass begins. -/
theorem Gathered.refused_of_area (h : Gathered g colors depth extent c found d)
    (outside : ¬area.Within extent.1 extent.2) : Gpu.Refused list g area colors depth := by
  by_contra begins
  obtain ⟨image, member⟩ := List.exists_mem_of_ne_nil _ h.nonempty
  obtain ⟨i, known, rfl⟩ := h.known image member
  refine outside ⟨?_, ?_, ?_, ?_⟩
  · exact UInt32.not_le.1 fun empty => begins (.emptyArea (.inl empty))
  · exact UInt32.not_le.1 fun empty => begins (.emptyArea (.inr empty))
  · exact UInt32.not_lt.1 fun past => begins (.largeArea member known (.inl past))
  · exact UInt32.not_lt.1 fun past => begins (.largeArea member known (.inr past))

/-- Where all formats fit, the views of the render pass are those of its attachments. -/
theorem Gathered.attaches (h : Gathered g colors depth extent c found d)
    (fits : (passDesc c depth d).Fits) {info : RenderPassInfo}
    (describes : (passDesc c depth d).Describes info) {views : List NativeAttachment}
    {depthView : Option NativeAttachment}
    (flagged : info.withLoadFlags c.views (d.map (·.2.1)) = (views, depthView)) :
    List.Forall₂ (Gpu.Attaches g extent false) colors views ∧
      Option.Rel (Gpu.Attaches g extent true) depth depthView := by
  obtain ⟨rfl, rfl⟩ := Prod.mk.inj flagged
  constructor
  · have clears : info.colorClear = colors.map (·.clear) :=
      describes.colorClear.trans h.collected.clears
    rw [h.collected.views, clears]
    refine attaches_of_resolved h.ofColors fun f member => ?_
    have named := List.mem_map_of_mem (f := (·.1)) member
    rw [← h.collected.formats] at named
    obtain ⟨color, inside, same⟩ := List.mem_map.1 named
    exact same ▸ fits.colors color inside
  · cases h.ofDepth with
    | none => exact .none
    | @some a f resolved =>
      have clear : info.clearDepth = a.clear := describes.clearDepth
      have isDepth : f.1.isDepth = true := fits.depth f.1 rfl
      have attached := resolved.attaches
      rw [isDepth, ← clear] at attached
      exact .some attached

/-- The render pass takes as many images as there are. -/
theorem Gathered.length (h : Gathered g colors depth extent c found d) {info : RenderPassInfo}
    (describes : (passDesc c depth d).Describes info) :
    (Gpu.attached colors depth).length = info.attachmentCount := by
  have formats : c.formats.length = colors.length := by
    simpa using congrArg List.length h.collected.clears
  have deep : d.isSome = depth.isSome := by cases h.ofDepth <;> rfl
  rw [describes.attachmentCount, Gpu.attached_eq]
  cases d <;> cases depth <;> simp_all [passDesc]

/-! ## Beginning -/

/-- A render pass that has begun, over attachments of one extent. -/
structure Begun (r t : Recording) (area : RenderArea) (colors : List Attachment)
    (depth : Option Attachment) (width height : UInt32) (pass framebuffer : CacheHandle)
    (views : List NativeAttachment) (depthView : Option NativeAttachment) : Prop where
  outside : r.list.target = none
  nonempty : Gpu.attached colors depth ≠ []
  ofColors : List.Forall₂ (Gpu.Attaches r.live.device (width, height) false) colors views
  ofDepth : Option.Rel (Gpu.Attaches r.live.device (width, height) true) depth depthView
  within : area.Within width height
  list : t.list = { r.list with
    commands := r.list.commands.push (.beginRenderPass area views depthView)
    target := some ⟨pass, area⟩ }
  /-- The framebuffer is the one of these images in this extent. -/
  named : t.live.device.framebuffers.lookup ⟨Gpu.attached colors depth, width, height, pass⟩ =
    some framebuffer
  shown : t.live.device.framebuffers.get? framebuffer =
    some ⟨Gpu.attached colors depth, width, height⟩

theorem wp_beginPass {r : Recording} (shelved : Gpu.Shelved r.live)
    (genuine : r.live.device.Genuine) (passes : r.live.device.passes.size < UInt32.size)
    (framebuffers : r.live.device.framebuffers.size < UInt32.size)
    (recording : r.list.finalized = false) (area : RenderArea) (colors : List Attachment)
    (depth : Option Attachment) :
    (beginPass area colors depth).wp
      (fun _ t => ∃ width height pass framebuffer views depthView,
        Begun r t area colors depth width height pass framebuffer views depthView)
      (fun e _ => Declined e ∧ Gpu.Refused r.list r.live.device area colors depth) r := by
  simp only [beginPass, wp_bind, wp_checkRecording, wp_checkOutsidePass, wp_onDevice]
  refine ⟨fun _ => ⟨fun outside => ?_, fun inside => ⟨⟨_, rfl⟩, .insidePass inside⟩⟩,
    fun finalized => ?_⟩
  swap
  · cases recording.symm.trans finalized
  have empty : Collected r.live.device [] {} [] := ⟨.nil, rfl, rfl, rfl, rfl, fun _ => rfl⟩
  -- Attachments are resolved one by one; each of the steps that can fail is a reason of `Refused`.
  refine (empty.wp_foldlM rfl).mono ?_ fun e _ failed => failed.2
  rintro c _ ⟨rfl, found, collected⟩
  refine collected.wp_depth.mono ?_ fun e _ failed => failed.2
  rintro d _ ⟨rfl, deep⟩
  rw [wp_orRefuse]
  refine ⟨?_, fun none => ⟨⟨_, rfl⟩, .nothing (collected.nothing deep none)⟩⟩
  rintro ⟨width, height⟩ given
  have h := collected.gathered deep given
  refine (Gpu.wp_renderPass shelved.passes genuine.passes passes (passDesc c depth d)).mono ?_ ?_
  swap
  · rintro _ _ ⟨-, e, rfl, failed⟩
    obtain ⟨misfit, cause, rfl⟩ := h.native.misfit_of_resolve failed
    exact ⟨⟨cause, rfl⟩, h.refused misfit⟩
  rintro pass _ ⟨passes', info, rfl, -, shownPass, resolved⟩
  obtain ⟨fits, describes⟩ := RenderPassDesc.fits_of_resolve resolved
  have images : c.images = colors.map (·.image) := collected.images
  rw [images]
  -- The render pass may be new, but the framebuffers and the images are those from before.
  have resolves := @Gpu.wp_framebuffer
    { r.live with device := { r.live.device with passes := passes' } } shelved.framebuffers
    genuine.framebuffers framebuffers ⟨Gpu.attached colors depth, width, height, pass⟩
    ⟨info, shownPass, h.length describes⟩ fun image member => (h.known image member).imp fun _ =>
      And.left
  refine resolves.mono ?_ fun _ _ => False.elim
  rintro framebuffer _ ⟨framebuffers', rfl, named, shown⟩
  obtain ⟨ofColors, ofDepth⟩ := h.attaches fits describes rfl
  simp only [Gpu.framebufferInfo, Gpu.renderPassInfo, wp_bind, Live.wp_self, shown, shownPass,
    wp_orRefuse_some, wp_require, wp_push, wp_updateList, ← RenderArea.within_iff]
  refine ⟨fun within => ?_, fun outside => ⟨⟨_, rfl⟩, h.refused_of_area fun within => ?_⟩⟩
  · exact ⟨width, height, pass, framebuffer, _, _, outside, h.nonempty, ofColors, ofDepth, within,
      rfl, named, shown⟩
  · cases outside.symm.trans (RenderArea.within_iff.1 within)

section

variable {r t : Recording} {width height : UInt32} {pass framebuffer : CacheHandle}
  {views : List NativeAttachment} {depthView : Option NativeAttachment}

theorem Begun.attaches_color
    (h : Begun r t area colors depth width height pass framebuffer views depthView)
    {a : Attachment} (member : a ∈ colors) :
    ∃ drawn, Gpu.Attaches r.live.device (width, height) false a drawn := by
  obtain ⟨drawn, -, attaches⟩ := forall₂_exists_left h.ofColors.flip member
  exact ⟨drawn, attaches⟩

theorem Begun.attaches_depth
    (h : Begun r t area colors depth width height pass framebuffer views depthView)
    {a : Attachment} (given : depth = some a) :
    ∃ drawn, Gpu.Attaches r.live.device (width, height) true a drawn := by
  subst given
  cases h.ofDepth with
  | some attaches => exact ⟨_, attaches⟩

/-- Every image of the pass is drawn to, for its depth or for its color. -/
theorem Begun.attaches
    (h : Begun r t area colors depth width height pass framebuffer views depthView)
    {image : Allocation} (member : image ∈ Gpu.attached colors depth) :
    ∃ a role drawn, a.image = image ∧ Gpu.Attaches r.live.device (width, height) role a drawn := by
  rw [Gpu.attached_eq] at member
  obtain ⟨a, given, rfl⟩ := List.mem_map.1 member
  rcases List.mem_append.1 given with color | deep
  · obtain ⟨drawn, attaches⟩ := h.attaches_color color
    exact ⟨a, false, drawn, rfl, attaches⟩
  · obtain ⟨drawn, attaches⟩ := h.attaches_depth (Option.mem_toList.1 deep)
    exact ⟨a, true, drawn, rfl, attaches⟩

/-- A render pass that has begun could not be refused. -/
theorem Begun.not_refused
    (h : Begun r t area colors depth width height pass framebuffer views depthView) :
    ¬Gpu.Refused r.list r.live.device area colors depth := by
  rintro (inside | none | ⟨member, other⟩ | ⟨member, missing⟩ | ⟨member, known, hidden⟩ |
    ⟨member, member', known, known', apart⟩ | ⟨member, known, misfit⟩ | ⟨given, known, misfit⟩ |
    empty | ⟨member, known, past⟩)
  · exact inside h.outside
  · exact h.nonempty none
  · obtain ⟨a, _, _, rfl, own, -⟩ := h.attaches member
    exact other own
  · obtain ⟨a, _, _, rfl, -, ⟨i, known, -⟩, -⟩ := h.attaches member
    cases missing.symm.trans known
  · obtain ⟨a, _, _, rfl, -, ⟨i, known', shown, -⟩, -⟩ := h.attaches member
    obtain rfl := Option.some.inj (known.symm.trans known')
    cases hidden.symm.trans shown
  · obtain ⟨a, _, _, rfl, -, ⟨i, shown, -, same, -⟩, -⟩ := h.attaches member
    obtain ⟨a', _, _, rfl, -, ⟨i', shown', -, same', -⟩, -⟩ := h.attaches member'
    obtain rfl := Option.some.inj (known.symm.trans shown)
    obtain rfl := Option.some.inj (known'.symm.trans shown')
    exact apart (same.trans same'.symm)
  · obtain ⟨_, -, ⟨i, known', -, -, fits⟩, -⟩ := h.attaches_color member
    obtain rfl := Option.some.inj (known.symm.trans known')
    cases misfit.symm.trans fits
  · obtain ⟨_, -, ⟨i, known', -, -, fits⟩, -⟩ := h.attaches_depth given
    obtain rfl := Option.some.inj (known.symm.trans known')
    cases misfit.symm.trans fits
  · rcases empty with columns | rows
    · exact UInt32.not_le.2 h.within.columns columns
    · exact UInt32.not_le.2 h.within.rows rows
  · obtain ⟨a, _, _, rfl, -, ⟨i, known', -, same, -⟩, -⟩ := h.attaches member
    obtain rfl := Option.some.inj (known.symm.trans known')
    obtain ⟨rfl, rfl⟩ := Prod.mk.inj same
    rcases past with right | bottom
    · exact UInt32.not_le.2 right h.within.right
    · exact UInt32.not_le.2 bottom h.within.bottom

end

end Recording

/-- A render pass begins unless it is refused, and then the list is as it was. When it begins it has
the present views of its attachments, with their own clear flags, in one extent that is the
framebuffer's; its area is inside, and so is every viewport until it ends. Handles are words of 32
bits, and there has to be one for another render pass and one for another framebuffer. -/
theorem Client.passes_begin {c : Client} (reachable : c.Reachable)
    (passes : c.live.device.passes.size < UInt32.size)
    (framebuffers : c.live.device.framebuffers.size < UInt32.size) {list : CommandList}
    (recording : list.finalized = false) (area : RenderArea) (colors : List Attachment)
    (depth : Option Attachment) :
    (∀ t, (Recording.beginPass area colors depth).outcome ⟨c.live, list⟩ = (.ok (), t) →
      ∃ width height pass framebuffer views depthView,
        Recording.Begun ⟨c.live, list⟩ t area colors depth width height pass framebuffer views
          depthView ∧ t.list.DrawsIn area) ∧
      (∀ e t, (Recording.beginPass area colors depth).outcome ⟨c.live, list⟩ = (.error e, t) →
        t.list = list ∧ Recording.Declined e) ∧
      ((∃ e, ((Recording.beginPass area colors depth).outcome ⟨c.live, list⟩).1 = .error e) ↔
        Gpu.Refused list c.live.device area colors depth) := by
  have ends := Recording.wp_beginPass (r := ⟨c.live, list⟩) reachable.shelved reachable.genuine
    passes framebuffers recording area colors depth
  have spares := @RecordingCall.spares (.beginPass area colors depth) nofun ⟨c.live, list⟩
  refine ⟨fun t ended => ?_, fun e t failed => ?_, ?_⟩
  · obtain ⟨width, height, pass, framebuffer, views, depthView, begun⟩ := ends.ended ended
    have inside : t.list.target = some ⟨pass, area⟩ := by rw [begun.list]
    exact ⟨_, _, _, _, _, _, begun, CommandList.drawsIn_of_inside inside⟩
  · exact ⟨spares.failed failed, (ends.failed failed).1⟩
  · cases ended : (Recording.beginPass area colors depth).outcome ⟨c.live, list⟩ with
    | mk result t =>
      cases result with
      | error e => exact ⟨fun _ => (ends.failed ended).2, fun _ => ⟨e, rfl⟩⟩
      | ok =>
        obtain ⟨_, _, _, _, _, _, begun⟩ := ends.ended ended
        exact ⟨nofun, fun refused => absurd refused begun.not_refused⟩

/-- A frame of a surface. -/
def frameTexture (n : Nat) : Texture := ⟨⟨.frame, n⟩, ⟨.frame, n⟩⟩

/-- A device with the image of a surface whose frames were smaller when a pass was last begun. -/
def resizedSurface : Client :=
  let image : Allocation := ⟨⟨1⟩, 0⟩
  (Client.opened ⟨1⟩).run
    [.device (.importImage .bgra8Unorm 4 4), .device (.bindView image (some (frameTexture 0)) 4 4),
      .newList, .record 0 (.beginPass ⟨0, 0, 4, 4⟩ [⟨image, true⟩] none), .record 0 .endPass,
      .device (.bindView image (some (frameTexture 1)) 8 6)]

/-- The next pass begins over the frame at hand, with a framebuffer of its extent. It cannot reach
over the edge. -/
theorem Client.passes_begin_resized :
    let list : CommandList := { buffer := ⟨1⟩ }
    let colors : List Attachment := [⟨⟨⟨1⟩, 0⟩, false⟩]
    let attempt (area : RenderArea) :=
      (Recording.beginPass area colors none).outcome ⟨resizedSurface.live, list⟩
    resizedSurface.live.device.framebuffers.size = 1 ∧
      (∃ pass framebuffer, Recording.Begun ⟨resizedSurface.live, list⟩ (attempt ⟨2, 1, 8, 6⟩).2
        ⟨2, 1, 8, 6⟩ colors none 8 6 pass framebuffer [(frameTexture 1, false)] none) ∧
      (attempt ⟨2, 1, 8, 6⟩).2.list.DrawsIn ⟨2, 1, 8, 6⟩ ∧
      ∃ e, (attempt ⟨2, 1, 8, 7⟩).1 = .error e := by
  intro list colors attempt
  have reachable : resizedSurface.Reachable := ⟨_, Client.fresh_opened ⟨1⟩, _, rfl⟩
  have image : resizedSurface.live.device.images.get? 0 =
      some ⟨some (frameTexture 1), .bgra8Unorm, 8, 6⟩ := by rfl
  have one : resizedSurface.live.device.framebuffers.size = 1 := by decide +kernel
  have pass : resizedSurface.live.device.passes.size = 1 := by decide +kernel
  have always := @passes_begin _ reachable (by rw [pass]; decide) (by rw [one]; decide) list rfl
  obtain ⟨begins, -, -⟩ := always ⟨2, 1, 8, 6⟩ colors none
  obtain ⟨-, -, refusals⟩ := always ⟨2, 1, 8, 7⟩ colors none
  have succeeds : (attempt ⟨2, 1, 8, 6⟩).1.isOk = true := by decide +kernel
  obtain ⟨width, height, pass, framebuffer, views, depthView, begun, draws⟩ :=
    begins _ (outcome_of_isOk succeeds)
  have refused := refusals.2 (.largeArea List.mem_cons_self image (by decide))
  refine ⟨one, ⟨pass, framebuffer, ?_⟩, draws, refused⟩
  -- The view and the extent are those of the one image.
  have ofDepth := begun.ofDepth
  obtain ⟨⟨view, clear⟩, _, ⟨-, ⟨i, known, shown, extent, -⟩, same⟩, rest, rfl⟩ :=
    List.forall₂_cons_left_iff.1 begun.ofColors
  obtain rfl := List.forall₂_nil_left_iff.1 rest
  obtain rfl := Option.some.inj (image.symm.trans known)
  cases ofDepth
  cases extent
  cases shown
  cases same
  exact begun

end DeviceLayer
