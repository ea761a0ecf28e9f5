import DeviceLayer.Proofs.Handles

/-!
# Handles that are refused

A device looks at each handle it is given: whether it is of this device, and whether there is a
buffer or an image behind it, as the call needs. A call whose handle does not stand the test fails,
and leaves all tables and all bytes as they were.

* `Device.serves` — the test.
* `Action.Refuses` — an action that always fails, and what it leaves.
* `Use`, `Use.handles` — calls with the handles that they are given.
* `Use.refused` — what fails the test on any of them is refused.
* `World.handles_safe` — no handle that was given up, is of another device or of another kind is
  taken.
-/

namespace DeviceLayer

open DeviceLayer.Action

namespace Action

variable {σ τ α β : Type} {R : σ → σ → Prop} {s : σ}

/-- The action fails, and the relation holds from the state that it starts in to the one that it
leaves. -/
def Refuses (R : σ → σ → Prop) (a : Action σ α) (s : σ) : Prop :=
  a.wp (fun _ _ => False) (fun _ t => R s t) s

namespace Refuses

theorem bind {a : Action σ β} (h : Refuses R a s) (f : β → Action σ α) : Refuses R (a >>= f) s :=
  (wp_bind _ _).2 (h.mono (fun _ _ => False.elim) fun _ _ left => left)

theorem map {a : Action σ β} (h : Refuses R a s) (f : β → α) : Refuses R (f <$> a) s :=
  (wp_map _ _).2 h

theorem discard {a : Action σ β} (h : Refuses R a s) : Refuses R (discard a) s := h.map _

/-- What comes before may do what the relation allows. -/
theorem after [Evolution R] {a : Action σ β} {f : β → Action σ α} (first : Evolves R a)
    (rest : ∀ x t, R s t → Refuses R (f x) t) : Refuses R (a >>= f) s := by
  refine (wp_bind _ _).2 ((first s).mono (fun x t step => ?_) fun _ _ step => step)
  exact (rest x t step).mono (fun _ _ => False.elim) fun _ _ => Evolution.trans step

variable [Evolution R]

/-- Where nothing is changed, whatever is to be kept is kept. -/
theorem ofEq {a : Action σ α} (h : Refuses Eq a s) : Refuses R a s :=
  h.mono (fun _ _ => False.elim) fun _ _ same => same ▸ Evolution.refl s

theorem forM {xs : List β} {f : β → Action σ PUnit} (each : ∀ x, Evolves R (f x)) {x : β}
    (member : x ∈ xs) (refused : ∀ t, R s t → Refuses R (f x) t) : Refuses R (xs.forM f) s := by
  induction xs generalizing s with
  | nil => cases member
  | cons y ys ih =>
    rcases List.mem_cons.1 member with rfl | later
    · exact (refused s (Evolution.refl s)).bind _
    · exact .after (each y) fun _ t step => ih later fun u rest =>
        refused u (Evolution.trans step rest)

theorem mapM {xs : List β} {f : β → Action σ α} (each : ∀ x, Evolves R (f x)) {x : β}
    (member : x ∈ xs) (refused : ∀ t, R s t → Refuses R (f x) t) : Refuses R (xs.mapM f) s := by
  induction xs generalizing s with
  | nil => cases member
  | cons y ys ih =>
    rw [List.mapM_cons]
    rcases List.mem_cons.1 member with rfl | later
    · exact (refused s (Evolution.refl s)).bind _
    · refine .after (each y) fun _ t step => bind (ih later fun u rest => ?_) _
      exact refused u (Evolution.trans step rest)

theorem foldlM {xs : List β} {f : α → β → Action σ α} (each : ∀ a x, Evolves R (f a x)) {x : β}
    (member : x ∈ xs) (refused : ∀ a t, R s t → Refuses R (f a x) t) (a : α) :
    Refuses R (xs.foldlM f a) s := by
  induction xs generalizing s a with
  | nil => cases member
  | cons y ys ih =>
    rw [List.foldlM_cons]
    rcases List.mem_cons.1 member with rfl | later
    · exact (refused a s (Evolution.refl s)).bind _
    · exact .after (each a y) fun b t step => ih later (fun a u rest =>
        refused a u (Evolution.trans step rest)) b

end Refuses

end Action

/-! ## The test -/

/-- Whether the device takes a handle where it expects a buffer or an image. One behind a transport
takes any. -/
def Device.serves (d : Device) (role : Role) (alloc : Allocation) : Bool :=
  !d.tracks || alloc.device = d.id && d.holds role alloc.id

theorem Host.refuses_block {α : Type} {h : Host} {alloc : Allocation}
    (stale : (Device.host h).serves .buffer alloc = false) (f : HostBlock → Action Host α) :
    Refuses Eq (block alloc >>= f) h := by
  refine (wp_bind _ _).2 ((wp_block alloc h).mono ?_ fun _ _ same => same.symm)
  rintro b t ⟨rfl, own, found⟩
  have held : (Device.host t).holds .buffer alloc.id = true :=
    Option.isSome_iff_exists.2 ⟨b, found⟩
  simp [Device.serves, Device.tracks, held, own, Device.id, Device.assigned, Host.id] at stale

theorem Host.refuses_deallocate {h : Host} {alloc : Allocation}
    (stale : (Device.host h).serves .buffer alloc = false) : Refuses Eq (deallocate alloc) h := by
  have refused := refuses_block stale fun _ =>
    modify fun h : Host => { h with blocks := h.blocks.erase alloc.id }
  simpa only [deallocate, discard_bind] using refused

namespace Gpu

variable {s t : Live Gpu} {alloc : Allocation} {role : Role}

theorem serves_buffer {g : Gpu} {a : BufferAllocation} (own : alloc.device = g.id)
    (found : g.buffers.get? alloc.id = some a) :
    (Device.gpu g).serves .buffer alloc = true := by
  have own : alloc.device = (Device.gpu g).id := own
  simp [Device.serves, own, Device.holds, found]

theorem serves_image {g : Gpu} {i : Image} (own : alloc.device = g.id)
    (found : g.images.get? alloc.id = some i) : (Device.gpu g).serves .image alloc = true := by
  have own : alloc.device = (Device.gpu g).id := own
  simp [Device.serves, own, Device.holds, found]

theorem Still.serves (h : Still s t) (role : Role) (alloc : Allocation) :
    (Device.gpu t.device).serves role alloc = (Device.gpu s.device).serves role alloc := by
  have id : (Device.gpu t.device).id = (Device.gpu s.device).id := by
    rw [Device.id, Device.id, Device.assigned, Device.assigned, h.assigned]
  have holds : (Device.gpu t.device).holds role alloc.id =
      (Device.gpu s.device).holds role alloc.id := by
    cases role with
    | buffer => rw [Device.holds, Device.holds, h.buffers]
    | image => rw [Device.holds, Device.holds, h.images]
  rw [Device.serves, Device.serves, id, holds]
  rfl

theorem refuses_resolve (pointer : Pointer)
    (stale : (Device.gpu s.device).serves .buffer pointer.allocation = false) :
    Refuses Eq (resolve pointer) s := by
  simp only [Refuses, resolve, checkLocal, allocation, wp_bind, Live.wp_self, wp_require,
    wp_orRefuse, decide_eq_true_eq, implies_true, and_true]
  intro own a found
  have own : pointer.allocation.device = s.device.id := own
  exact Bool.eq_false_iff.1 stale (serves_buffer own found)

theorem refuses_checkedRange {pointer : Pointer} (size : UInt64)
    (stale : (Device.gpu s.device).serves .buffer pointer.allocation = false) :
    Refuses Eq (checkedRange pointer size) s := (refuses_resolve _ stale).bind _

theorem refuses_deallocate (stale : (Device.gpu s.device).serves .buffer alloc = false) :
    Refuses Eq (deallocate alloc) s := by
  refine (wp_deallocate alloc s).mono ?_ fun _ _ same => same.symm
  rintro _ _ ⟨own, ⟨a, found⟩, -⟩
  exact Bool.eq_false_iff.1 stale (serves_buffer own found)

/-- An image is looked up as a buffer is. -/
theorem refuses_image {α : Type} (stale : (Device.gpu s.device).serves .image alloc = false)
    (f : Image → Action (Live Gpu) α) :
    Refuses Eq (checkLocal alloc.device >>= fun _ => image alloc.id >>= f) s := by
  simp only [Refuses, checkLocal, image, wp_bind, Live.wp_self, wp_require, wp_orRefuse,
    decide_eq_true_eq, implies_true, and_true]
  exact fun own i found => absurd (serves_image own found) (Bool.eq_false_iff.1 stale)

theorem refuses_destroyImage (stale : (Device.gpu s.device).serves .image alloc = false) :
    Refuses Eq (destroyImage alloc) s := by
  have refused := refuses_image stale fun _ =>
    Live.update fun g => { g with images := g.images.erase alloc.id }
  simpa only [destroyImage, discard_bind] using refused

theorem refuses_imageTarget (stale : (Device.gpu s.device).serves .image alloc = false) :
    Refuses Eq (imageTarget alloc) s := refuses_image stale _

theorem refuses_resolveAttachment (extent : Option (UInt32 × UInt32)) {a : Attachment}
    (stale : (Device.gpu s.device).serves .image a.image = false) :
    Refuses Eq (Recording.resolveAttachment extent a) s := (refuses_imageTarget stale).bind _

theorem refuses_bindSlot {binder : Binder} {index binding : UInt32} {slot : Binding}
    (holds : (binder.slot? index binding).filter (fun b => !b.pointer.isNull) = some slot)
    (stale : (Device.gpu s.device).serves .buffer slot.pointer.allocation = false)
    (kind : ResourceKind) : Refuses Eq (bindSlot binder index binding kind) s := by
  unfold bindSlot
  simp only [holds]
  exact (refuses_resolve _ stale).bind _

/-- Within a device nothing is copied to or from a handle that fails the test. -/
theorem copyWithin_declines {dst : Pointer} {src : Range}
    (stale : (Device.gpu s.device).serves .buffer dst.allocation = false ∨
      (src.device = s.device.id →
        (Device.gpu s.device).serves .buffer src.start.allocation = false)) :
    (copyWithin dst src).wp (fun copied t => copied = false ∧ t = s ∧ src.device ≠ s.device.id)
      (fun _ t => t = s) s := by
  refine wp_lookUp (evolves_checkLocal _) (fun _ => ?_) fun _ => rfl
  simp only [wp_bind, Live.wp_self]
  refine (wp_ite _ _).2 ⟨fun there => ⟨rfl, rfl, there⟩, fun here => ?_⟩
  have here : src.device = s.device.id := Decidable.not_not.1 here
  rw [wp_bind]
  rcases stale with stale | stale
  · refine (evolves_checkedRange (S := Eq) src.start src.length s).mono ?_ fun _ _ => Eq.symm
    rintro range _ rfl
    rw [wp_bind]
    exact (refuses_checkedRange _ stale).mono (fun _ _ => False.elim) fun _ _ => Eq.symm
  · exact (refuses_checkedRange _ (stale here)).mono (fun _ _ => False.elim) fun _ _ => Eq.symm

end Gpu

/-! ## Recording -/

/-- The handles that a binder has in the slots of a pipeline. -/
def BoundPipeline.handles (bound : BoundPipeline) (binder : Binder) : List Allocation :=
  bound.sets.zipIdx.flatMap fun ((_, slots), index) =>
    slots.toList.filterMap fun (binding, _) =>
      ((binder.slot? (UInt32.ofNat index) binding).filter fun b => !b.pointer.isNull).map
        (·.pointer.allocation)

/-- The handles that a call to a list is given, with what is expected behind each. -/
def RecordingCall.handles (list : CommandList) : RecordingCall → List (Role × Allocation)
  | .copy dst src _ => [(.buffer, dst.allocation), (.buffer, src.allocation)]
  | .fill pointer _ _ => [(.buffer, pointer.allocation)]
  | .bindResources binder =>
    (list.bound.elim [] (·.handles binder)).map fun alloc => (.buffer, alloc)
  | .beginPass _ colors depth => (colors ++ depth.toList).map fun a => (.image, a.image)
  | _ => []

namespace Recording

variable {α : Type} {r : Recording} {role : Role} {alloc : Allocation}

theorem refuses_onDevice {a : Action (Live Gpu) α} (h : Refuses Gpu.Still a r.live) :
    Refuses Still (onDevice a) r := (wp_onDevice a).2 h

theorem still_onDevice {a : Action (Live Gpu) α} (h : a.Evolves Gpu.Still) :
    (onDevice a).Evolves Still := evolves_onDevice h fun _ _ step => step

theorem Still.stale {t : Recording} (h : Still r t)
    (stale : (Device.gpu r.live.device).serves role alloc = false) :
    (Device.gpu t.live.device).serves role alloc = false :=
  (Gpu.Still.serves h role alloc).trans stale

theorem refuses_bindSet {binder : Binder} {index : UInt32} {slots : SetLayout} {binding : UInt32}
    {kind : ResourceKind} {slot : Binding} (named : (binding, kind) ∈ slots.toList)
    (holds : (binder.slot? index binding).filter (fun b => !b.pointer.isNull) = some slot)
    (stale : (Device.gpu r.live.device).serves .buffer slot.pointer.allocation = false)
    (layout : CacheHandle) : Refuses Still (bindSet binder index layout slots) r := by
  refine .after (still_onDevice (Gpu.framed_allocSet layout)) fun set t taken => ?_
  have listed (r : Recording) := Evolution.refl (R := Gpu.Still) r.live
  refine .after (evolves_updateList listed) fun _ u same => ?_
  have stale := same.stale (taken.stale stale)
  refine (refuses_onDevice ?_).bind _
  refine (Refuses.mapM (fun _ => Gpu.framed_bindSlot _ _ _ _) named fun v step => ?_).bind _
  have stale := (step.serves _ _).trans stale
  exact (Gpu.refuses_bindSlot holds stale kind).ofEq

theorem refuses_bindResources {binder : Binder} {bound : BoundPipeline}
    (inForce : r.list.bound = some bound) (named : alloc ∈ bound.handles binder)
    (stale : (Device.gpu r.live.device).serves .buffer alloc = false) :
    Refuses Still (bindResources binder) r := by
  simp only [BoundPipeline.handles, List.mem_flatMap, List.mem_filterMap, Prod.exists,
    Option.map_eq_some_iff] at named
  obtain ⟨layout, slots, index, numbered, binding, kind, inSlots, slot, holds, rfl⟩ := named
  refine wp_lookUp evolves_checkRecording (fun _ => ?_) fun _ => Evolution.refl r
  rw [wp_bind, wp_current, inForce, wp_bind, wp_orRefuse_some]
  refine Refuses.bind (R := Still) ?_ _
  refine Refuses.forM (fun _ => framed_bindSet _ _ _ _) numbered fun t step => ?_
  exact refuses_bindSet inSlots holds (step.stale stale) layout

theorem refuses_copy {dst src : Pointer} (size : UInt64)
    (stale : (Device.gpu r.live.device).serves .buffer dst.allocation = false ∨
      (Device.gpu r.live.device).serves .buffer src.allocation = false) :
    Refuses Still (copy dst src size) r := by
  refine .after evolves_checkRecording fun _ t first => ?_
  refine .after (evolves_checkOutsidePass _) fun _ u second => ?_
  rcases stale with stale | stale
  · refine .after (still_onDevice (Gpu.evolves_checkedRange src size)) fun range v third => ?_
    have stale := third.stale (second.stale (first.stale stale))
    exact (refuses_onDevice (Gpu.refuses_checkedRange _ stale).ofEq).bind _
  · have stale := second.stale (first.stale stale)
    exact (refuses_onDevice (Gpu.refuses_checkedRange _ stale).ofEq).bind _

theorem refuses_fill {pointer : Pointer} (size : UInt64) (word : UInt32)
    (stale : (Device.gpu r.live.device).serves .buffer pointer.allocation = false) :
    Refuses Still (fill pointer size word) r := by
  refine .after evolves_checkRecording fun _ t first => ?_
  refine .after (evolves_checkOutsidePass _) fun _ u second => ?_
  have stale := second.stale (first.stale stale)
  exact (refuses_onDevice (Gpu.refuses_checkedRange _ stale).ofEq).bind _

theorem refuses_beginPass (area : RenderArea) {colors : List Attachment}
    {depth : Option Attachment} {a : Attachment} (member : a ∈ colors ++ depth.toList)
    (stale : (Device.gpu r.live.device).serves .image a.image = false) :
    Refuses Still (beginPass area colors depth) r := by
  refine .after evolves_checkRecording fun _ t first => ?_
  refine .after (evolves_checkOutsidePass _) fun _ u second => ?_
  have stale := second.stale (first.stale stale)
  rcases List.mem_append.1 member with inColors | isDepth
  · refine (refuses_onDevice ?_).bind _
    refine Refuses.foldlM (R := Gpu.Still) Gpu.evolves_addAttachment inColors ?_ _
    intro c v step
    have stale := (step.serves _ _).trans stale
    exact (Gpu.refuses_resolveAttachment _ stale).ofEq.bind _
  · refine .after (still_onDevice (.foldlM Gpu.evolves_addAttachment _)) fun c v third => ?_
    cases Option.mem_toList.1 isDepth
    have refused := Gpu.refuses_resolveAttachment c.extent (third.stale stale)
    exact (refuses_onDevice (refused.ofEq.bind _)).bind _

end Recording

theorem RecordingCall.refused {r : Recording} {call : RecordingCall} {role : Role}
    {alloc : Allocation} (given : (role, alloc) ∈ call.handles r.list)
    (stale : (Device.gpu r.live.device).serves role alloc = false) :
    Refuses Recording.Still call.run r := by
  open Recording in
  cases call with
  | copy dst src size =>
    rcases List.mem_cons.1 given with same | same
    · cases same
      exact refuses_copy size (.inl stale)
    · cases List.mem_singleton.1 same
      exact refuses_copy size (.inr stale)
  | fill pointer size word =>
    cases List.mem_singleton.1 given
    exact refuses_fill size word stale
  | beginPass area colors depth =>
    obtain ⟨a, member, same⟩ := List.mem_map.1 given
    cases same
    exact refuses_beginPass area member stale
  | bindResources binder =>
    obtain ⟨alloc, named, same⟩ := List.mem_map.1 given
    cases same
    cases inForce : r.list.bound with
    | none =>
      rw [inForce] at named
      cases named
    | some bound =>
      rw [inForce] at named
      exact refuses_bindResources inForce named stale
  | _ => cases given

/-! ## Uses of handles -/

/-- A call that is given handles. -/
inductive Use where
  | memory (request : MemoryRequest)
  | destroyImage (alloc : Allocation)
  /-- Asks for the native buffer behind a handle. -/
  | nativeBuffer (alloc : Allocation)
  /-- Asks for what drawing to an image draws to. -/
  | nativeImage (alloc : Allocation)
  /-- A call to a list that is recorded for the device. -/
  | record (list : CommandList) (call : RecordingCall)

def MemoryRequest.handles : MemoryRequest → List Allocation
  | .allocate _ => []
  | .deallocate alloc | .map alloc | .unmap alloc => [alloc]
  | .mapRange start _ => [start.allocation]
  | .readRange range => [range.start.allocation]
  | .writeRange dst _ | .transfer dst _ _ => [dst.allocation]

namespace Use

/-- The call as the device takes it; only its effect matters. -/
def run (key : DeviceKey) : Use → Action World Unit
  | .memory request => request.run key
  | .destroyImage alloc => World.onGpu key (Gpu.destroyImage alloc)
  | .nativeBuffer alloc => discard (World.onGpu key (Gpu.nativeBuffer alloc))
  | .nativeImage alloc => discard (World.onGpu key (Gpu.imageTarget alloc))
  | .record list call =>
    World.onGpu key (call.run.within (fun s => ⟨s, list⟩) fun r _ => r.live)

/-- The handles that the device itself has to stand for, with what is expected behind each. -/
def handles : Use → List (Role × Allocation)
  | .memory request => request.handles.map fun alloc => (.buffer, alloc)
  | .destroyImage alloc | .nativeImage alloc => [(.image, alloc)]
  | .nativeBuffer alloc => [(.buffer, alloc)]
  | .record list call => call.handles list

/-- The source of a transfer, and the device that has to stand for it. -/
def source? : Use → Option (DeviceKey × Allocation)
  | .memory (.transfer _ src source) => some (source, src.start.allocation)
  | _ => none

end Use

/-- What a device keeps behind its handles. -/
inductive Device.Tables where
  | host (h : Host)
  | gpu (assigned : Option DeviceId) (buffers : SortedMap UInt32 BufferAllocation)
      (images : SortedMap UInt32 Image)
  | remote (r : Remote)

namespace Device

/-- Of a graphics processor, its allocations with their mappings and its images. -/
def tables : Device → Tables
  | .host h => .host h
  | .gpu g => .gpu g.assigned g.buffers g.images
  | .remote r => .remote r

theorem serves_congr {d d' : Device} (same : d'.tables = d.tables) (role : Role)
    (alloc : Allocation) : d'.serves role alloc = d.serves role alloc := by
  cases d with
  | host h =>
    cases d' with
    | host => cases same; rfl
    | gpu | remote => cases same
  | remote r =>
    cases d' with
    | remote => cases same; rfl
    | gpu | host => cases same
  | gpu g =>
    cases d' with
    | host | remote => cases same
    | gpu g' =>
      obtain ⟨assigned, buffers, images⟩ := Tables.gpu.inj same
      have id : (Device.gpu g').id = (Device.gpu g).id := by
        rw [Device.id, Device.id, Device.assigned, Device.assigned, assigned]
      cases role with
      | buffer => simp only [serves, tracks, id, holds, buffers]
      | image => simp only [serves, tracks, id, holds, images]

end Device

namespace World

/-- What the devices keep behind their handles. -/
def tables (w : World) (key : DeviceKey) : Option Device.Tables :=
  (w.devices.get? key).map Device.tables

/-- Tables are the same, and what native buffers held they hold. -/
structure Intact (w w' : World) : Prop where
  tables : w'.tables = w.tables
  platform : w.platform.Extends w'.platform

instance : Evolution Intact where
  refl w := ⟨rfl, Evolution.refl w.platform⟩
  trans first second :=
    ⟨second.tables.trans first.tables, Evolution.trans first.platform second.platform⟩

variable {α : Type} {key : DeviceKey} {w w' : World} {role : Role} {alloc : Allocation}

theorem Intact.put {d d' : Device} {p : Platform} (found : w.devices.get? key = some d)
    (same : d'.tables = d.tables) (platform : w.platform.Extends p) :
    w.Intact (w.put key d' p) := by
  refine ⟨funext fun k => ?_, platform⟩
  rw [World.tables, World.tables, get?_put]
  split
  · rename_i here
    rw [here, found, Option.map_some, Option.map_some, same]
  · rfl

/-- Nothing that is live holds other bytes. -/
theorem Intact.memory (h : w.Intact w') (housed : w.Housed) : w'.memory = w.memory := by
  funext ⟨k, id⟩
  have same : (w'.devices.get? k).map Device.tables = (w.devices.get? k).map Device.tables :=
    congrFun h.tables k
  simp only [World.memory]
  cases found : w.devices.get? k with
  | none =>
    rw [found, Option.map_none, Option.map_eq_none_iff] at same
    rw [same]
    rfl
  | some d =>
    rw [found, Option.map_some] at same
    obtain ⟨d', found', same⟩ := Option.map_eq_some_iff.1 same
    rw [found', Option.bind_some, Option.bind_some]
    cases d with
    | host | remote =>
      cases d' with
      | host | remote | gpu =>
        cases same
        try rfl
    | gpu g =>
      cases d' with
      | host | remote => cases same
      | gpu g' =>
        obtain ⟨-, buffers, -⟩ := Device.Tables.gpu.inj same
        exact Device.memory_congr (by rw [buffers]) fun a lives =>
          h.platform.old a.buffer ((housed.each found).stored_of lives)

/-- Whether the device behind a key takes a handle. -/
def Serves (w : World) (key : DeviceKey) (role : Role) (alloc : Allocation) : Prop :=
  ∃ d, w.devices.get? key = some d ∧ d.serves role alloc = true

theorem Intact.serves (h : w.Intact w') (serves : w'.Serves key role alloc) :
    w.Serves key role alloc := by
  obtain ⟨d', found', served⟩ := serves
  have same : (w'.devices.get? key).map Device.tables = (w.devices.get? key).map Device.tables :=
    congrFun h.tables key
  rw [found', Option.map_some] at same
  obtain ⟨d, found, same⟩ := Option.map_eq_some_iff.1 same.symm
  exact ⟨d, found, (Device.serves_congr same role alloc).trans served⟩

theorem refuses_onDevice (stale : ¬w.Serves key role alloc) {host : Action Host α}
    {gpu : Action (Live Gpu) α} {remote : Action (Live Remote) α}
    (onHost : ∀ h, (Device.host h).serves role alloc = false → Refuses Eq host h)
    (onGpu : ∀ s : Live Gpu, (Device.gpu s.device).serves role alloc = false →
      Refuses Gpu.Still gpu s) :
    Refuses Intact (onDevice key host gpu remote) w := by
  have fails {d : Device} (found : w.devices.get? key = some d) :
      d.serves role alloc = false := Bool.eq_false_iff.2 fun served => stale ⟨d, found, served⟩
  rw [Refuses, wp_onDevice]
  split
  · exact Evolution.refl w
  · rename_i h found
    refine (onHost h (fails found)).mono (fun _ _ => False.elim) ?_
    rintro e _ rfl
    exact .put found rfl (Evolution.refl _)
  · rename_i g found
    refine (onGpu ⟨w.platform, g⟩ (fails found)).mono (fun _ _ => False.elim) fun e s left => ?_
    refine .put found ?_ left.platform
    rw [Device.tables, left.assigned, left.buffers, left.images]
    rfl
  · rename_i r found
    cases fails found

theorem refuses_onGpu (stale : ¬w.Serves key role alloc) {action : Action (Live Gpu) α}
    (refused : ∀ s : Live Gpu, (Device.gpu s.device).serves role alloc = false →
      Refuses Gpu.Still action s) : Refuses Intact (onGpu key action) w :=
  refuses_onDevice stale (fun _ _ => rfl) refused

theorem refuses_readRange {range : Range} (stale : ¬w.Serves key .buffer range.start.allocation) :
    Refuses Intact (readRange key range) w :=
  refuses_onDevice stale (fun _ fails => Host.refuses_block fails _)
    fun _ fails => (Gpu.refuses_checkedRange _ fails).ofEq.bind _

theorem refuses_writeRange {dst : Pointer} (stale : ¬w.Serves key .buffer dst.allocation)
    (data : Storage) : Refuses Intact (writeRange key dst data) w :=
  refuses_onDevice stale (fun _ fails => Host.refuses_block fails _)
    fun _ fails => (Gpu.refuses_checkedRange _ fails).ofEq.bind _

theorem refuses_mapRange {start : Pointer} (stale : ¬w.Serves key .buffer start.allocation)
    (size : UInt64) : Refuses Intact (mapRange key start size) w :=
  refuses_onDevice stale (fun _ fails => Host.refuses_block fails _)
    fun _ fails => (Gpu.refuses_checkedRange _ fails).ofEq.bind _

theorem refuses_unmap (stale : ¬w.Serves key .buffer alloc) :
    Refuses Intact (unmap key alloc) w :=
  refuses_onDevice stale (fun _ fails => Host.refuses_block fails _)
    fun _ fails => (Gpu.refuses_resolve (alloc.pointer 0) fails).ofEq.bind _

theorem refuses_deallocate (stale : ¬w.Serves key .buffer alloc) :
    Refuses Intact (deallocate key alloc) w :=
  refuses_onDevice stale (fun _ fails => Host.refuses_deallocate fails)
    fun _ fails => (Gpu.refuses_deallocate fails).ofEq

theorem intact_readRange (key : DeviceKey) (range : Range) :
    (readRange key range).Evolves Intact :=
  (untouched_readRange key range).mono fun w w' h => ⟨by
    funext k
    rw [World.tables, World.tables, h.devices], h.platform⟩

/-- Bytes are read before they are written, so that either handle may be the one that is refused. -/
theorem refuses_stage {dst : Pointer} {src : Range} {source : DeviceKey}
    (stale : ¬w.Serves key .buffer dst.allocation ∨
      ¬w.Serves source .buffer src.start.allocation) :
    Refuses Intact (stage key dst src source) w := by
  rcases stale with stale | stale
  · exact .after (intact_readRange _ _) fun bytes v read =>
      refuses_writeRange (fun served => stale (read.serves served)) bytes
  · exact (refuses_readRange stale).bind _

theorem not_serves {d : Device} (stale : ¬w.Serves key role alloc)
    (found : w.devices.get? key = some d) : d.serves role alloc = false :=
  Bool.eq_false_iff.2 fun served => stale ⟨d, found, served⟩

/-- A graphics processor takes a range of its own from itself, whatever the source is said to be. -/
theorem refuses_transfer {dst : Pointer} {src : Range} {source : DeviceKey}
    (stale : ¬w.Serves key .buffer dst.allocation ∨
      ¬w.Serves source .buffer src.start.allocation ∧
        ∀ g, w.devices.get? key = some (.gpu g) → src.device = g.id → source = key) :
    Refuses Intact (transfer key dst src source) w := by
  have staged : Refuses Intact (stage key dst src source) w :=
    refuses_stage (stale.imp_right And.left)
  have same : w.Intact w := Evolution.refl w
  simp only [Refuses, transfer, device, wp_bind, wp_get]
  cases found : w.devices.get? key with
  | none => exact same
  | some d =>
    rw [wp_orRefuse_some]
    cases d with
    | host | remote => exact wp_lookUp (.require _ _) (fun _ => staged) fun _ => same
    | gpu g =>
      have here : (Device.gpu g).serves .buffer dst.allocation = false ∨
          (src.device = g.id → (Device.gpu g).serves .buffer src.start.allocation = false) := by
        rcases stale with stale | ⟨stale, alone⟩
        · exact .inl (not_serves stale found)
        · exact .inr fun own => not_serves (alone g found own ▸ stale) found
      simp only [wp_bind, onGpu, wp_onDevice, found]
      refine (Gpu.copyWithin_declines (s := ⟨w.platform, g⟩) here).mono ?_ ?_
      · rintro copied _ ⟨rfl, rfl, -⟩
        rw [put_self found]
        exact staged
      · rintro e _ rfl
        rw [put_self found]
        exact same

end World

/-! ## Every use -/

theorem MemoryRequest.refused {w : World} {key : DeviceKey} {request : MemoryRequest}
    {alloc : Allocation} (given : alloc ∈ request.handles) (stale : ¬w.Serves key .buffer alloc) :
    Refuses World.Intact (request.run key) w := by
  open World in
  cases request with
  | allocate params => cases given
  | deallocate alloc =>
    cases List.mem_singleton.1 given
    exact refuses_deallocate stale
  | map alloc =>
    cases List.mem_singleton.1 given
    have stale : ¬w.Serves key .buffer (alloc.pointer 0).allocation := stale
    exact (refuses_mapRange stale wholeSize).discard
  | mapRange start size =>
    cases List.mem_singleton.1 given
    exact (refuses_mapRange stale size).discard
  | unmap alloc =>
    cases List.mem_singleton.1 given
    exact refuses_unmap stale
  | readRange range =>
    cases List.mem_singleton.1 given
    exact (refuses_readRange stale).discard
  | writeRange dst data =>
    cases List.mem_singleton.1 given
    exact refuses_writeRange stale data
  | transfer dst src source =>
    cases List.mem_singleton.1 given
    exact refuses_transfer (.inl stale)

/-- A call that is given a handle which fails the test fails, and leaves tables and bytes alone. -/
theorem Use.refused {w : World} {key : DeviceKey} {use : Use} {role : Role} {alloc : Allocation}
    (given : (role, alloc) ∈ use.handles) (stale : ¬w.Serves key role alloc) :
    Refuses World.Intact (use.run key) w := by
  open World in
  cases use with
  | memory request =>
    obtain ⟨alloc, named, same⟩ := List.mem_map.1 given
    cases same
    exact MemoryRequest.refused named stale
  | destroyImage alloc =>
    cases List.mem_singleton.1 given
    exact refuses_onGpu stale fun _ fails => (Gpu.refuses_destroyImage fails).ofEq
  | nativeBuffer alloc =>
    cases List.mem_singleton.1 given
    refine (refuses_onGpu stale fun _ fails => ?_).discard
    exact (Gpu.refuses_resolve (alloc.pointer 0) fails).ofEq.bind _
  | nativeImage alloc =>
    cases List.mem_singleton.1 given
    exact (refuses_onGpu stale fun _ fails => (Gpu.refuses_imageTarget fails).ofEq).discard
  | record list call =>
    refine refuses_onGpu stale fun s fails => (wp_within _ _ _).2 ?_
    exact RecordingCall.refused (r := ⟨s, list⟩) given fails

theorem Use.source_refused {w : World} {key source : DeviceKey} {use : Use} {alloc : Allocation}
    (given : use.source? = some (source, alloc)) (stale : ¬w.Serves source .buffer alloc)
    (alone : ∀ g, w.devices.get? key = some (.gpu g) → alloc.device = g.id → source = key) :
    Refuses World.Intact (use.run key) w := by
  unfold source? at given
  split at given
  · cases given
    exact World.refuses_transfer (.inr ⟨stale, alone⟩)
  · cases given

/-! ## Over whole runs -/

namespace World

/-- A device that keeps track of its handles, and that the registry finds by its id. -/
structure Registered (w : World) (key : DeviceKey) (d : Device) : Prop where
  found : w.devices.get? key = some d
  listed : w.registry.find? d.id = some key
  tracks : d.tracks = true

/-- The call fails, with all tables and all bytes of what is live as they were. -/
def Rejects (w : World) (key : DeviceKey) (use : Use) : Prop :=
  ∃ e w', (use.run key).outcome w = (.error e, w') ∧ w'.tables = w.tables ∧ w'.memory = w.memory

variable {w : World} {key : DeviceKey} {d : Device} {role : Role} {alloc : Allocation}

theorem rejects_of_refuses {use : Use} (housed : w.Housed)
    (refused : Refuses Intact (use.run key) w) : w.Rejects key use := by
  cases ended : (use.run key).outcome w with
  | mk result w' =>
    cases result with
    | ok => exact (refused.ended ended).elim
    | error e =>
      have left := refused.failed ended
      exact ⟨e, w', ended, left.tables, left.memory housed⟩

theorem Registered.serves (h : w.Registered key d) (serves : w.Serves key role alloc) :
    alloc.device = d.id ∧ d.holds role alloc.id = true := by
  obtain ⟨_, found, served⟩ := serves
  cases h.found.symm.trans found
  simpa [Device.serves, h.tracks] using served

/-- Whatever was asked of a world: ids that a device gives go up, for buffers and images together. A
device of the registry that is given a handle with an id that it took back, a handle of another
device, or one of a buffer for an image or of an image for a buffer fails, and leaves all tables and
all bytes as they were. The same holds of the device that a transfer reads from, if the handle is
its own. -/
theorem handles_safe (calls : List WorldCall) :
    let w := after {} calls
    ((given {} calls).Pairwise fun earlier later =>
      earlier.1 = later.1 → earlier.2 < later.2) ∧
    (∀ key d use role alloc, w.Registered key d → (role, alloc) ∈ use.handles →
      ((key, alloc.id) ∈ retired {} calls ∨ alloc.device ≠ d.id ∨
        ∃ other, other ≠ role ∧ d.holds other alloc.id = true) → w.Rejects key use) ∧
    ∀ key d source d' use alloc, w.Registered key d → w.Registered source d' →
      use.source? = some (source, alloc) → alloc.device = d'.id →
      ((source, alloc.id) ∈ retired {} calls ∨ d'.holds .image alloc.id = true) →
        w.Rejects key use := by
  intro w
  have reachable : w.Reachable := Reachable.new.after calls
  have sound : w.Sound := (ages_after {} calls).sound sound_empty
  have gone {key id d role} (h : w.Registered key d) (retires : (key, id) ∈ retired {} calls) :
      d.holds role id = false :=
    ((spent_of_retired sound_empty retires).spent h.found h.tracks).gone role
  refine ⟨given_ascends sound_empty calls, ?_, ?_⟩
  · intro key d use role alloc registered given stale
    refine rejects_of_refuses reachable.housed (Use.refused given fun serves => ?_)
    obtain ⟨own, held⟩ := registered.serves serves
    rcases stale with retires | foreign | ⟨other, differs, held'⟩
    · exact Bool.eq_false_iff.1 (gone registered retires) held
    · exact foreign own
    · exact differs ((sound.each registered.found).apart held' held)
  · intro key d source d' use alloc registered registered' given own stale
    refine rejects_of_refuses reachable.housed (Use.source_refused given (fun serves => ?_) ?_)
    · obtain ⟨-, held⟩ := registered'.serves serves
      rcases stale with retires | held'
      · exact Bool.eq_false_iff.1 (gone registered' retires) held
      · cases (sound.each registered'.found).apart held' held
    · -- Two devices of one registry are not found by the same id.
      intro g found here
      cases registered.found.symm.trans found
      have same : (Device.gpu g).id = d'.id := here.symm.trans own
      have listed := registered.listed
      rw [same, registered'.listed] at listed
      exact Option.some.inj listed

/-- A run in which a graphics processor gives two buffers and an image, and takes a buffer back. -/
def reused : List WorldCall :=
  [.createGpu {}, .register 0, .addHost 64, .register 1, .allocate 0 (.hostVisible 8),
    .allocate 1 (.hostVisible 8), .client 0 [] (.device (.createImage .rgba8 4 4)),
    .allocate 0 (.hostVisible 8), .deallocate 0 ⟨⟨0⟩, 0⟩]

/-- Read from the buffer that was taken back, or copied from it; the image taken for a buffer, and
the buffer of another device. -/
theorem handles_safe_reused :
    let w := after {} reused
    given {} reused = [(0, 0), (1, 0), (0, 1), (0, 2)] ∧
      w.Rejects 0 (.memory (.readRange ⟨⟨⟨0⟩, 0, 0⟩, 4⟩)) ∧
      w.Rejects 0 (.nativeBuffer ⟨⟨0⟩, 1⟩) ∧
      w.Rejects 0 (.memory (.unmap ⟨⟨1⟩, 0⟩)) ∧
      w.Rejects 1 (.memory (.transfer ⟨⟨1⟩, 0, 0⟩ ⟨⟨⟨0⟩, 0, 0⟩, 4⟩ 0)) := by
  intro w
  have gone : ((0, 0) : DeviceKey × UInt32) ∈ retired {} reused := by decide +kernel
  have gpu : (w.devices.get? 0).map (fun d => (d.id, w.registry.find? d.id, d.tracks,
      d.holds .image 1)) = some (⟨0⟩, some 0, true, true) := by decide +kernel
  have host : (w.devices.get? 1).map (fun d => (d.id, w.registry.find? d.id, d.tracks)) =
      some (⟨1⟩, some 1, true) := by decide +kernel
  obtain ⟨g, found, isGpu⟩ := Option.map_eq_some_iff.1 gpu
  obtain ⟨h, found', isHost⟩ := Option.map_eq_some_iff.1 host
  simp only [Prod.mk.injEq] at isGpu isHost
  obtain ⟨own, listed, tracks, image⟩ := isGpu
  obtain ⟨-, listed', tracks'⟩ := isHost
  have ofGpu : w.Registered 0 g := ⟨found, listed, tracks⟩
  have ofHost : w.Registered 1 h := ⟨found', listed', tracks'⟩
  obtain ⟨-, rejects, sourceRejects⟩ := handles_safe reused
  refine ⟨by decide +kernel, ?_, ?_, ?_, ?_⟩
  · exact rejects 0 g _ .buffer _ ofGpu (List.mem_singleton.2 rfl) (.inl gone)
  · exact rejects 0 g _ .buffer _ ofGpu (List.mem_singleton.2 rfl)
      (.inr (.inr ⟨.image, nofun, image⟩))
  · refine rejects 0 g _ .buffer ⟨⟨1⟩, 0⟩ ofGpu (List.mem_singleton.2 rfl) (.inr (.inl ?_))
    rw [own]
    decide
  · exact sourceRejects 1 h 0 g _ _ ofHost ofGpu rfl own.symm (.inl gone)

end World

end DeviceLayer
