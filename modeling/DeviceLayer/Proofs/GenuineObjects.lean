import DeviceLayer.Proofs.SharedObjects

/-!
# Genuine objects

What a cache of a device holds for a description is what the description says, however long ago it
was made and whatever became of the images since. So it makes no difference to a client whether a
render pass or a framebuffer was there before.

* `ObjectCache.Made` — each object of a cache is what a law makes of its description.
* `Gpu.Genuine`, `Client.Reachable.genuine` — the caches of a device hold what descriptions say.
* `RenderPassDesc.fits_of_resolve`, `RenderPassDesc.Native.misfit_of_resolve` — which descriptions
  can be resolved, and to what.
* `Gpu.wp_renderPass`, `Gpu.wp_framebuffer` — what resolving a description comes to.
-/

namespace DeviceLayer

open DeviceLayer.Action

/-! ## Objects made after a law -/

namespace ObjectCache

variable {κ α : Type} {law : κ → α → Prop} {c : ObjectCache κ α} {key : κ} {object : α}
  {handle : CacheHandle}

/-- Each object is what the law makes of its description. -/
def Made (law : κ → α → Prop) (c : ObjectCache κ α) : Prop :=
  List.Forall₂ (fun e object => law e.1 object) c.index c.objects

theorem Made.push (h : c.Made law) (lawful : law key object) : (c.push key object).Made law :=
  List.rel_append h (.cons lawful .nil)

variable [DecidableEq κ]

theorem Made.get? (h : c.Made law) (indexed : c.Indexed) (few : c.size ≤ UInt32.size)
    (found : c.lookup key = some handle) :
    ∃ object, c.get? handle = some object ∧ law key object := by
  obtain ⟨object, shown⟩ := indexed.exists_get? few found
  refine ⟨object, shown, ?_⟩
  have named := (indexed.lookup_eq_some_iff few).1 found
  obtain ⟨e, entry, rfl⟩ := Option.map_eq_some_iff.1 ((List.getElem?_map ..).symm.trans named)
  obtain ⟨there, rfl⟩ := List.getElem?_eq_some_iff.1 entry
  obtain ⟨there', rfl⟩ := List.getElem?_eq_some_iff.1 shown
  exact List.Forall₂.get h there there'

/-- A description that an object can be made from comes to such an object, be it there before or
not. -/
theorem Made.wp_getOrInsert {σ : Type} {create : Action σ α}
    {Q : CacheHandle × ObjectCache κ α → σ → Prop} {E : Fault → σ → Prop} {s : σ}
    (h : c.Made law) (indexed : c.Indexed) (few : c.size < UInt32.size)
    (makes : create.wp (fun object t => t = s ∧ law key object) E s)
    (found : ∀ handle c' object, c'.lookup key = some handle → c'.get? handle = some object →
      law key object → Q (handle, c') s) :
    (c.getOrInsert key create).wp Q E s := by
  rw [ObjectCache.wp_getOrInsert]
  constructor
  · intro handle seen
    obtain ⟨object, shown, lawful⟩ := h.get? indexed (Nat.le_of_lt few) seen
    exact found handle c object seen shown lawful
  · intro unseen
    refine makes.mono ?_ fun _ _ failed => failed
    rintro object t ⟨rfl, lawful⟩
    -- The handle of a new object is its position, as long as that is a word.
    refine found _ _ object (lookup_push unseen object) ?_ lawful
    rw [get?_push, toNat_handleAt few, if_pos rfl]

end ObjectCache

/-! ## Which render passes there are -/

theorem option_mapM_eq_ok {ε α β : Type} {f : α → Except ε β} {x : Option α} {y : Option β}
    (resolved : x.mapM f = .ok y) :
    (x = none ∧ y = none) ∨ ∃ a b, x = some a ∧ y = some b ∧ f a = .ok b := by
  cases x with
  | none =>
    cases resolved
    exact .inl ⟨rfl, rfl⟩
  | some a =>
    change some <$> f a = .ok y at resolved
    cases found : f a with
    | error e =>
      rw [found] at resolved
      cases resolved
    | ok b =>
      rw [found] at resolved
      cases resolved
      exact .inr ⟨a, b, rfl, rfl, found⟩

theorem option_mapM_eq_error {ε α β : Type} {f : α → Except ε β} {x : Option α} {e : ε}
    (failed : x.mapM f = .error e) : ∃ a, x = some a ∧ f a = .error e := by
  cases x with
  | none => cases failed
  | some a =>
    change some <$> f a = .error e at failed
    cases found : f a with
    | error e' =>
      rw [found] at failed
      cases failed
      exact ⟨a, rfl, found⟩
    | ok b =>
      rw [found] at failed
      cases failed

/-- A format that stands for a native one has that one. -/
theorem TextureFormat.texture?_of_bufferFormat? {t : TextureFormat} {f : BufferFormat}
    (h : t.bufferFormat? = some f) : f.texture? = some t := by
  cases t <;> cases h <;> rfl

theorem isDepth_of_colorFormat {f : BufferFormat} {t : TextureFormat}
    (resolved : colorFormat f = .ok t) : f.isDepth = false := by
  unfold colorFormat at resolved
  split at resolved
  · cases resolved
  · exact Bool.eq_false_iff.2 ‹_›

theorem isDepth_of_depthFormat {f : BufferFormat} {t : TextureFormat}
    (resolved : depthFormat f = .ok t) : f.isDepth = true := by
  unfold depthFormat at resolved
  split at resolved
  · assumption
  · cases resolved

/-- Formats that stand for native ones are refused for their role only. -/
theorem isDepth_of_colorFormat_error {f : BufferFormat} {e : DeviceError}
    (native : f.texture?.isSome = true) (failed : colorFormat f = .error e) :
    f.isDepth = true ∧ ∃ cause, e = .precondition cause := by
  obtain ⟨t, native⟩ := Option.isSome_iff_exists.1 native
  unfold colorFormat attachmentFormat at failed
  rw [native] at failed
  split at failed
  · cases failed
    exact ⟨‹_›, _, rfl⟩
  · cases failed

theorem isDepth_of_depthFormat_error {f : BufferFormat} {e : DeviceError}
    (native : f.texture?.isSome = true) (failed : depthFormat f = .error e) :
    f.isDepth = false ∧ ∃ cause, e = .precondition cause := by
  obtain ⟨t, native⟩ := Option.isSome_iff_exists.1 native
  unfold depthFormat attachmentFormat at failed
  rw [native] at failed
  split at failed
  · cases failed
  · cases failed
    exact ⟨Bool.eq_false_iff.2 ‹_›, _, rfl⟩

namespace RenderPassDesc

variable {desc : RenderPassDesc} {info : RenderPassInfo}

/-- All formats of the description stand for native ones. -/
structure Native (desc : RenderPassDesc) : Prop where
  colors : ∀ c ∈ desc.colors, c.1.texture?.isSome = true
  depth : ∀ f, desc.depth = some f → f.texture?.isSome = true

/-- Depth formats are for the depth attachment, and no others are. -/
structure Fits (desc : RenderPassDesc) : Prop where
  colors : ∀ c ∈ desc.colors, c.1.isDepth = false
  depth : ∀ f, desc.depth = some f → f.isDepth = true

/-- What the device keeps of a description. -/
structure Describes (desc : RenderPassDesc) (info : RenderPassInfo) : Prop where
  colorClear : info.colorClear = desc.colors.map (·.2)
  clearDepth : info.clearDepth = desc.clearDepth
  attachmentCount : info.attachmentCount = desc.colors.length + desc.depth.toList.length

/-- A description is resolved by its colors and its depth. -/
theorem resolve_eq (desc : RenderPassDesc) :
    desc.resolve =
      match desc.colors.mapM fun c => colorFormat c.1, desc.depth.mapM depthFormat with
      | .ok colors, .ok depth => .ok ⟨colors, desc.colors.map (·.2), depth, desc.clearDepth⟩
      | .error e, _ => .error e
      | _, .error e => .error e := by
  unfold resolve
  cases desc.colors.mapM fun c => colorFormat c.1 with
  | error e => rfl
  | ok colors => cases desc.depth.mapM depthFormat <;> rfl

/-- What has been resolved fits, and the device keeps the clear flags of the description. -/
theorem fits_of_resolve (resolved : desc.resolve = .ok info) :
    desc.Fits ∧ desc.Describes info := by
  rw [resolve_eq] at resolved
  split at resolved
  · rename_i colors depth ofColors ofDepth
    cases resolved
    have each := mapM_eq_ok_iff.1 ofColors
    have fit := (List.forall₂_and_left _ _).1 (each.imp fun c t h => ⟨isDepth_of_colorFormat h, h⟩)
    have count : colors.length = desc.colors.length := each.length_eq.symm
    rcases option_mapM_eq_ok ofDepth with ⟨given, rfl⟩ | ⟨f, t, given, rfl, format⟩
    · refine ⟨⟨fit.1, by simp [given]⟩, rfl, rfl, ?_⟩
      simp [RenderPassInfo.attachmentCount, count, given]
    · refine ⟨⟨fit.1, by simp [given, isDepth_of_depthFormat format]⟩, rfl, rfl, ?_⟩
      simp [RenderPassInfo.attachmentCount, count, given]
  · cases resolved
  · cases resolved

/-- What cannot be resolved does not fit. -/
theorem Native.misfit_of_resolve (native : desc.Native) {e : DeviceError}
    (failed : desc.resolve = .error e) : ¬desc.Fits ∧ ∃ cause, e = .precondition cause := by
  rw [resolve_eq] at failed
  split at failed
  · cases failed
  · rename_i ofColors
    cases failed
    obtain ⟨c, member, failed⟩ := exists_of_mapM_eq_error ofColors
    obtain ⟨isDepth, cause⟩ := isDepth_of_colorFormat_error (native.colors c member) failed
    refine ⟨fun fits => ?_, cause⟩
    cases isDepth.symm.trans (fits.colors c member)
  · rename_i ofDepth _
    cases failed
    obtain ⟨f, given, failed⟩ := option_mapM_eq_error ofDepth
    obtain ⟨isColor, cause⟩ := isDepth_of_depthFormat_error (native.depth f given) failed
    refine ⟨fun fits => ?_, cause⟩
    cases isColor.symm.trans (fits.depth f given)

end RenderPassDesc

/-! ## Devices whose caches are genuine -/

/-- The render pass of a description. -/
def RenderPassDesc.Makes (desc : RenderPassDesc) (info : RenderPassInfo) : Prop :=
  desc.resolve = .ok info

/-- The framebuffer of a description. -/
def FramebufferDesc.Makes (desc : FramebufferDesc) (info : FramebufferInfo) : Prop :=
  info = ⟨desc.attachments, desc.width, desc.height⟩

namespace Gpu

/-- The caches of a device hold what their descriptions say. -/
structure Genuine (g : Gpu) : Prop where
  passes : g.passes.Made RenderPassDesc.Makes
  framebuffers : g.framebuffers.Made FramebufferDesc.Makes

/-- A device whose caches are genuine stays one. -/
def StaysGenuine (s t : Live Gpu) : Prop := s.device.Genuine → t.device.Genuine

instance : Evolution StaysGenuine where
  refl _ h := h
  trans first second := second ∘ first

variable {s t : Live Gpu}

theorem StaysGenuine.of_caches (passes : t.device.passes = s.device.passes)
    (framebuffers : t.device.framebuffers = s.device.framebuffers) : StaysGenuine s t :=
  fun h => ⟨passes ▸ h.passes, framebuffers ▸ h.framebuffers⟩

theorem staysGenuine_setLayout (slots : SetLayout) : (setLayout slots).Evolves StaysGenuine := by
  intro s
  simp only [Gpu.setLayout, wp_bind, Live.wp_self, ObjectCache.wp_getOrInsert]
  exact ⟨fun _ _ => .of_caches rfl rfl, fun _ => .of_caches rfl rfl⟩

theorem staysGenuine_renderPass (desc : RenderPassDesc) :
    (renderPass desc).Evolves StaysGenuine := by
  intro s
  simp only [renderPass, wp_bind, Live.wp_self, ObjectCache.wp_getOrInsert, wp_checked,
    Live.wp_update, wp_pure]
  refine ⟨fun _ _ => .of_caches rfl rfl, fun _ => ⟨fun info resolved h => ?_, ?_⟩⟩
  · exact ⟨h.passes.push resolved, h.framebuffers⟩
  · exact fun _ _ => Evolution.refl s

theorem staysGenuine_framebuffer (desc : FramebufferDesc) :
    (framebuffer desc).Evolves StaysGenuine := by
  intro s
  simp only [framebuffer, renderPassInfo, wp_bind, Live.wp_self, wp_orRefuse, wp_require,
    ObjectCache.wp_getOrInsert, Live.wp_update, wp_pure]
  refine ⟨fun _ _ => ⟨fun _ => ⟨fun _ _ => .of_caches rfl rfl, fun _ => ?_⟩,
    fun _ => Evolution.refl s⟩, fun _ => Evolution.refl s⟩
  -- Looking at the images changes nothing.
  have looks : (desc.attachments.forM fun a => discard (image a.id)).Evolves Eq :=
    .forM fun a => (evolves_image a.id).discard
  refine (looks s).mono ?_ ?_
  · rintro _ _ rfl h
    exact ⟨h.passes, h.framebuffers.push rfl⟩
  · rintro _ _ rfl
    exact Evolution.refl s

instance : Growing StaysGenuine where
  grows _ := .of_caches rfl rfl

instance : ImageFrame StaysGenuine where
  rests h := .of_caches h.passes h.framebuffers
  makes h := Growing.grows h.toGrows
  placeholderFor := evolves_placeholderFor (fun _ _ => .of_caches rfl rfl)
    fun _ _ => .of_caches rfl rfl
  setLayout := staysGenuine_setLayout
  renderPass := staysGenuine_renderPass
  framebuffer := staysGenuine_framebuffer
  images _ := .of_caches rfl rfl

instance : MemoryFrame StaysGenuine where
  buffers _ := .of_caches rfl rfl
  works _ := .of_caches rfl rfl

instance : ListFrame StaysGenuine where
  custody _ _ := .of_caches rfl rfl
  pool _ _ := .of_caches rfl rfl
  polled _ := .of_caches rfl rfl

end Gpu

theorem Client.Reachable.genuine {c : Client} (reachable : c.Reachable) :
    c.live.device.Genuine := by
  refine reachable.induct (P := fun c => c.live.device.Genuine) ?_ fun call c h => ?_
  · rintro _ ⟨_, created, _⟩
    obtain ⟨_, _, _, rfl, -⟩ := Gpu.create_eq_ok created
    exact ⟨.nil, .nil⟩
  · exact call.framedImage (S := Gpu.StaysGenuine) c h

namespace Gpu

variable {s : Live Gpu}

/-! ## What resolving a description comes to -/

/-- A render pass is resolved to what its description says, made now or before. -/
theorem wp_renderPass (indexed : s.device.passes.Indexed)
    (made : s.device.passes.Made RenderPassDesc.Makes)
    (few : s.device.passes.size < UInt32.size) (desc : RenderPassDesc) :
    (renderPass desc).wp
      (fun handle t => ∃ passes info, t = { s with device := { s.device with passes } } ∧
        passes.lookup desc = some handle ∧ passes.get? handle = some info ∧
          desc.resolve = .ok info)
      (fun e t => t = s ∧ ∃ cause, e = .device cause ∧ desc.resolve = .error cause) s := by
  simp only [renderPass, wp_bind, Live.wp_self, Live.wp_update, wp_pure]
  refine made.wp_getOrInsert indexed few ((wp_checked _).2 ⟨?_, ?_⟩) ?_
  · exact fun info resolved => ⟨rfl, resolved⟩
  · exact fun e failed => ⟨rfl, e, rfl, failed⟩
  · intro handle passes info found shown resolved
    exact ⟨passes, info, rfl, found, shown, resolved⟩

theorem wp_lookAtImages {images : List Allocation}
    (known : ∀ a ∈ images, ∃ i, s.device.images.get? a.id = some i) :
    (images.forM fun a => discard (image a.id)).wp (fun _ t => t = s) (fun _ _ => False) s := by
  induction images with
  | nil => exact rfl
  | cons a images ih =>
    obtain ⟨⟨i, here⟩, rest⟩ := List.forall_mem_cons.1 known
    refine (wp_bind (discard (image a.id)) fun _ => images.forM _).2 ?_
    simpa [image, here] using ih rest

/-- A framebuffer of images that are there, with as many as its render pass takes, is resolved, and
to its own images and extent, made now or before. -/
theorem wp_framebuffer (indexed : s.device.framebuffers.Indexed)
    (made : s.device.framebuffers.Made FramebufferDesc.Makes)
    (few : s.device.framebuffers.size < UInt32.size) {desc : FramebufferDesc}
    (framed : s.device.Frames desc)
    (known : ∀ a ∈ desc.attachments, ∃ i, s.device.images.get? a.id = some i) :
    (framebuffer desc).wp
      (fun handle t => ∃ framebuffers, t = { s with device := { s.device with framebuffers } } ∧
        framebuffers.lookup desc = some handle ∧
          framebuffers.get? handle = some ⟨desc.attachments, desc.width, desc.height⟩)
      (fun _ _ => False) s := by
  obtain ⟨pass, there, fits⟩ := framed
  simp only [framebuffer, renderPassInfo, wp_bind, Live.wp_self, Live.wp_update, wp_pure, there,
    wp_orRefuse_some, wp_require, fits, decide_true, true_implies, Bool.true_eq_false,
    false_implies, and_true]
  refine made.wp_getOrInsert indexed few ((wp_bind _ _).2 ?_) ?_
  · refine (wp_lookAtImages known).mono ?_ fun _ _ failed => failed
    rintro _ _ rfl
    exact ⟨rfl, rfl⟩
  · rintro handle framebuffers _ found shown rfl
    exact ⟨framebuffers, rfl, found, shown⟩

end Gpu

end DeviceLayer
