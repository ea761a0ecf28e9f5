import DeviceLayer.Proofs.Backing
import DeviceLayer.Proofs.PipelineLayouts
import DeviceLayer.Proofs.Promises

/-!
# What slots come to

Writing a descriptor set goes through the slots of its layout. Each comes to a window: of the memory
that the binder holds there or, where it holds nothing, of the placeholder, which grows on the way.

* `Gpu.Windows`, `Gpu.wp_bindWindow` — a window of an allocation.
* `Gpu.SlotEnd`, `Gpu.wp_bindSlot` — all that a slot can come to.
* `Gpu.Supplies` — what a device keeps while resources are bound.
* `BindEntry.Shows` — what an entry shows.
* `Gpu.Written`, `Gpu.wp_writeSet` — the bind group of one set.
* `Recording.wp_bindResources` — the bind groups of a pipeline, and the geometry.
-/

namespace DeviceLayer

open DeviceLayer.Action

namespace Gpu

/-! ## One slot -/

/-- The entry shows an allocation from where the slot points on. -/
structure Windows (g : Gpu) (a : BufferAllocation) (kind : ResourceKind) (slot : Binding)
    (e : BindEntry) : Prop where
  device : slot.pointer.device = g.id
  held : g.buffers.get? slot.pointer.allocId = some a
  buffer : e.buffer = a.buffer
  offset : e.offset = slot.pointer.offset.toNat
  inside : min (e.offset + resolveSize slot.pointer.offset slot.size a.size) maxWord ≤ a.size
  aligned : e.offset % (g.limits.offsetAlignment kind).toNat = 0
  size : ∃ length, alignUp (resolveSize slot.pointer.offset slot.size a.size) = .ok length ∧
    e.size = if length = 0 then none else some length

theorem wp_bindWindow (index binding : UInt32) (kind : ResourceKind) (slot : Binding)
    (s : Live Gpu) :
    (bindWindow index binding kind slot).wp
      (fun e t => t = s ∧ e.binding = binding ∧ ∃ a, s.device.Windows a kind slot e)
      (fun _ t => t = s) s := by
  simp only [bindWindow, resolve, checkLocal, allocation, wp_bind, Live.wp_self, wp_require,
    wp_orRefuse, wp_check, wp_pure, decide_eq_true_eq, implies_true, and_true]
  intro here a held inside aligned length fits
  exact ⟨trivial, trivial, a, here, held, rfl, rfl, inside, aligned, length, fits, rfl⟩

/-- The entry shows the placeholder of the device from its beginning on. -/
structure Placeholds (minSize : Nat) (e : BindEntry) (t : Live Gpu) : Prop where
  buffer : e.buffer = t.device.placeholder
  offset : e.offset = 0
  size : e.size = some (placeholderLength minSize)
  room : placeholderLength minSize ≤ t.platform.bufferSize t.device.placeholder

/-- All that a slot can come to. -/
inductive SlotEnd (s : Live Gpu) (kind : ResourceKind) (slot : Option Binding) (e : BindEntry) :
    Live Gpu → Prop where
  | window {b : Binding} {a : BufferAllocation} (holds : slot = some b)
    (notNull : b.pointer.isNull = false) (windows : s.device.Windows a kind b e) :
    SlotEnd s kind slot e s
  | placeholder {t : Live Gpu} (empty : ∀ b, slot = some b → b.pointer.isNull = true)
    (placeholds : Placeholds ((slot.map (·.size.toNat)).getD 0) e t) : SlotEnd s kind slot e t

theorem wp_bindSlot (binder : Binder) (index binding : UInt32) (kind : ResourceKind)
    (s : Live Gpu) :
    (bindSlot binder index binding kind).wp
      (fun e t => e.binding = binding ∧ SlotEnd s kind (binder.slot? index binding) e t)
      (fun _ _ => True) s := by
  unfold bindSlot
  dsimp only
  cases kept : (binder.slot? index binding).filter fun b => !b.pointer.isNull with
  | some b =>
    obtain ⟨holds, notNull⟩ := Option.filter_eq_some_iff.1 kept
    refine (wp_bindWindow index binding kind b s).mono ?_ fun _ _ _ => trivial
    rintro e _ ⟨rfl, named, a, windows⟩
    exact ⟨named, .window holds (by simpa using notNull) windows⟩
  | none =>
    have empty : ∀ b, binder.slot? index binding = some b → b.pointer.isNull = true := by
      intro b holds
      simpa [holds, Option.filter] using kept
    refine (wp_bind _ _).2 ((wp_placeholderFor _ s).mono ?_ fun _ _ _ => trivial)
    rintro _ t ⟨-, rfl, room⟩
    exact ⟨rfl, .placeholder empty ⟨rfl, rfl, rfl, room⟩⟩

end Gpu

/-- The entry is a window of the memory that a binder has for its slot or, where it has none, the
placeholder of the device in the state `v`, from its beginning on and no further than it goes. -/
structure BindEntry.Shows (e : BindEntry) (s v : Live Gpu) (binder : Binder) (set : UInt32)
    (kind : ResourceKind) : Prop where
  memory : ∀ {b : Binding}, binder.slot? set e.binding = some b → b.pointer.isNull = false →
    ∃ a, s.device.Windows a kind b e
  placeholder : (∀ b, binder.slot? set e.binding = some b → b.pointer.isNull = true) →
    Gpu.Placeholds (((binder.slot? set e.binding).map (·.size.toNat)).getD 0) e v

namespace Gpu

/-! ## One set -/

def KeepsLimits (s t : Live Gpu) : Prop := t.device.limits = s.device.limits

instance : Evolution KeepsLimits := ⟨fun _ => rfl, fun first second => second.trans first⟩

instance : Growing KeepsLimits := ⟨fun _ => rfl⟩

instance : ListFrame KeepsLimits where
  toFrame := .of fun h => h.limits
  custody _ _ := rfl
  pool _ _ := rfl
  polled _ := rfl

/-- What a device keeps while resources are bound: its allocations and limits, its cached objects,
and all that is behind a window. -/
structure Supplies (s t : Live Gpu) : Prop where
  pads : Pads s t
  tables : KeepsTables s t
  shelves : Shelves s t
  limits : KeepsLimits s t

instance : Evolution Supplies where
  refl _ := ⟨Evolution.refl _, Evolution.refl _, Evolution.refl _, Evolution.refl _⟩
  trans first second := ⟨Evolution.trans first.pads second.pads,
    Evolution.trans first.tables second.tables, Evolution.trans first.shelves second.shelves,
    Evolution.trans first.limits second.limits⟩

theorem evolves_supplies {α : Type} {a : Action (Live Gpu) α} (pads : a.Evolves Pads)
    (tables : a.Evolves KeepsTables) (shelves : a.Evolves Shelves)
    (limits : a.Evolves KeepsLimits) : a.Evolves Supplies := by
  refine fun s => (((pads s).and (tables s)).and ((shelves s).and (limits s))).mono ?_ ?_
  · exact fun _ t steps => ⟨steps.1.1, steps.1.2, steps.2.1, steps.2.2⟩
  · exact fun _ t steps => ⟨steps.1.1, steps.1.2, steps.2.1, steps.2.2⟩

/-- Supplies are there for the same windows. -/
theorem Supplies.windows {s t : Live Gpu} {a : BufferAllocation} {kind : ResourceKind}
    {slot : Binding} {e : BindEntry} (h : Supplies s t) (windows : t.device.Windows a kind slot e) :
    s.device.Windows a kind slot e := by
  obtain ⟨device, held, buffer, offset, inside, aligned, size⟩ := windows
  refine ⟨?_, h.tables.buffers ▸ held, buffer, offset, inside, ?_, size⟩
  · rw [device, id, id, h.tables.assigned]
  · rwa [← show t.device.limits = s.device.limits from h.limits]

theorem supplies_allocSet (layout : CacheHandle) : (allocSet layout).Evolves Supplies :=
  evolves_supplies (framed_allocSet layout)
    ((framed_allocSet layout).mono fun _ _ => Still.keepsTables) (framed_allocSet layout)
    (framed_allocSet layout)

/-- The set that is taken is one of the layout's. -/
theorem wp_allocSet_supplies (layout : CacheHandle) (s : Live Gpu) :
    (allocSet layout).wp (fun set t => set.layout = layout ∧ Supplies s t) (fun _ _ => True) s := by
  have own : (allocSet layout).wp (fun set _ => set.layout = layout) (fun _ _ => True) s := by
    simp [allocSet, layoutEntry]
  exact (own.and (supplies_allocSet layout s)).mono (fun _ _ ended => ended) fun _ _ _ => trivial

theorem supplies_bindSlot (binder : Binder) (index binding : UInt32) (kind : ResourceKind) :
    (bindSlot binder index binding kind).Evolves Supplies :=
  evolves_supplies (framed_bindSlot _ _ _ _) (framed_bindSlot _ _ _ _) (framed_bindSlot _ _ _ _)
    (framed_bindSlot _ _ _ _)

/-- The entry is what a slot of the layout came to at some moment in between. -/
def Written (s t : Live Gpu) (binder : Binder) (index : UInt32) (slot : UInt32 × ResourceKind)
    (e : BindEntry) : Prop :=
  ∃ u v, Supplies s u ∧ (bindSlot binder index slot.1 slot.2).outcome u = (.ok e, v) ∧
    Supplies v t

variable {s t u : Live Gpu} {binder : Binder} {index : UInt32} {slot : UInt32 × ResourceKind}
  {e : BindEntry}

theorem Written.from (h : Written t u binder index slot e) (step : Supplies s t) :
    Written s u binder index slot e := by
  obtain ⟨v, w, before, made, after⟩ := h
  exact ⟨v, w, Evolution.trans step before, made, after⟩

theorem Written.lasts (h : Written s t binder index slot e) (step : Supplies t u) :
    Written s u binder index slot e := by
  obtain ⟨v, w, before, made, after⟩ := h
  exact ⟨v, w, before, made, Evolution.trans after step⟩

/-- The bind group of a set is of the native layout behind the layout's handle, and has one entry
for each slot of the layout, in order. -/
structure GroupOf (s t : Live Gpu) (binder : Binder) (index : UInt32)
    (set : CacheHandle × SetLayout) (group : BindGroup) : Prop where
  layout : (t.device.layouts.get? set.1).map (·.native) = some group.windows.layout
  entries : List.Forall₂ (Written s t binder index) set.2.toList group.windows.entries

theorem GroupOf.from {set : CacheHandle × SetLayout} {group : BindGroup}
    (h : GroupOf t u binder index set group) (step : Supplies s t) :
    GroupOf s u binder index set group :=
  ⟨h.layout, h.entries.imp fun _ _ written => written.from step⟩

theorem GroupOf.lasts {set : CacheHandle × SetLayout} {group : BindGroup}
    (h : GroupOf s t binder index set group) (step : Supplies t u) :
    GroupOf s u binder index set group :=
  ⟨step.shelves.layouts.get? (fun native => native) h.layout,
    h.entries.imp fun _ _ written => written.lasts step⟩

/-- What was written for a slot shows what it is to show, at the moment when it was made. -/
theorem Written.shows (h : Written s t binder index slot e) :
    e.binding = slot.1 ∧ ∃ u v, Pads s u ∧
      (bindSlot binder index e.binding slot.2).outcome u = (.ok e, v) ∧ Pads u v ∧ Pads v t ∧
        e.Shows s v binder index slot.2 := by
  obtain ⟨u, v, before, made, after⟩ := h
  obtain ⟨named, ended⟩ := (wp_bindSlot binder index slot.1 slot.2 u).ended made
  have step : Supplies u v := by
    have evolved := (supplies_bindSlot binder index slot.1 slot.2).outcome u
    rwa [made] at evolved
  rw [← named] at made ended
  refine ⟨named, u, v, before.pads, made, step.pads, after.pads, ?_⟩
  cases ended with
  | @window b a holds notNull windows =>
    refine ⟨fun {c} held _ => ?_, fun empty => ?_⟩
    · obtain rfl := Option.some.inj (holds.symm.trans held)
      exact ⟨a, before.windows windows⟩
    · exact absurd (empty b holds) (by simp [notNull])
  | placeholder empty placeholds =>
    refine ⟨fun {c} held notNull => ?_, fun _ => placeholds⟩
    exact absurd (empty c held) (by simp [notNull])

variable {set : CacheHandle × SetLayout} {group : BindGroup}

/-- Each slot of the layout has its entry, under the same number. -/
theorem GroupOf.bindings (h : GroupOf s t binder index set group) :
    group.windows.entries.map (·.binding) = set.2.keys := by
  have same : List.Forall₂ (· = ·) set.2.keys (group.windows.entries.map (·.binding)) := by
    refine List.forall₂_map_left_iff.2 (List.forall₂_map_right_iff.2 ?_)
    exact h.entries.imp fun _ _ written => written.shows.1.symm
  rw [List.forall₂_eq_eq_eq] at same
  exact same.symm

/-- Each entry was written for a slot of the layout. -/
theorem GroupOf.entry (h : GroupOf s t binder index set group)
    (member : e ∈ group.windows.entries) :
    ∃ slot ∈ set.2.toList, Written s t binder index slot e := by
  obtain ⟨i, there⟩ := List.getElem?_of_mem member
  obtain ⟨within, rfl⟩ := List.getElem?_eq_some_iff.1 there
  have known : i < set.2.toList.length := h.entries.length_eq ▸ within
  exact ⟨_, List.getElem_mem known, h.entries.get known within⟩

/-- Of groups that are made for numbered sets, each is that of the set with its number. -/
theorem GroupOf.of_forall₂ {sets : List (CacheHandle × SetLayout)} {groups : List BindGroup}
    (each : List.Forall₂ (fun e => GroupOf s t binder (UInt32.ofNat e.2) e.1) sets.zipIdx groups)
    {i : Nat} {group : BindGroup} (there : groups[i]? = some group) :
    ∃ set, sets[i]? = some set ∧ GroupOf s t binder (UInt32.ofNat i) set group := by
  obtain ⟨within, rfl⟩ := List.getElem?_eq_some_iff.1 there
  have known : i < sets.length := by
    rwa [← List.length_zipIdx (l := sets), each.length_eq]
  refine ⟨sets[i], List.getElem?_eq_getElem known, ?_⟩
  simpa using each.get (by rwa [List.length_zipIdx]) within

theorem wp_writeSet (set : SetHandle) (slots : SetLayout) (binder : Binder) (index : UInt32)
    (s : Live Gpu) :
    (writeSet set slots binder index).wp
      (fun group t => Supplies s t ∧ GroupOf s t binder index (set.layout, slots) group)
      (fun _ _ => True) s := by
  simp only [writeSet, layoutEntry, wp_bind, Live.wp_self, wp_orRefuse, wp_attempt,
    Platform.wp_createBindGroup]
  refine (wp_mapM (R := Supplies) (P := fun slot e t => Written s t binder index slot e)
    (fun step written => written.lasts step) (fun slot t reached => ?_) slots.toList).mono ?_
      fun _ _ _ => trivial
  · obtain ⟨binding, kind⟩ := slot
    refine ((supplies_bindSlot binder index binding kind t).and (wp_outcome _ t)).mono ?_
      fun _ _ _ => trivial
    exact fun e u ended => ⟨ended.1, t, u, reached, ended.2, Evolution.refl u⟩
  · rintro entries t ⟨reached, written⟩
    refine ⟨fun entry found => ⟨fun _ => ?_, fun _ _ => trivial⟩, fun _ => trivial⟩
    have makes : t.platform.Makes
        (t.platform.makeBindGroup t.device.connection ⟨entry.native, entries⟩).2 :=
      .told (List.prefix_refl _) (Nat.le_refl _) rfl rfl rfl
    have made : Supplies t ⟨_, t.device⟩ :=
      ⟨Basis.makes makes, Basis.makes makes, Basis.makes makes, rfl⟩
    refine ⟨Evolution.trans reached made, ?_, ?_⟩
    · rw [found]
      rfl
    · exact written.imp fun _ _ written => written.lasts made

end Gpu

/-! ## All sets of a pipeline -/

/-- The commands that bind vertex and index buffers. -/
def Recorded.isGeometry : Recorded → Bool
  | .vertexBuffer .. | .indexBuffer .. => true
  | _ => false

namespace Recording

open Gpu (Supplies GroupOf)

theorem wp_bindSet (binder : Binder) (index : UInt32) (set : CacheHandle × SetLayout)
    (r : Recording) :
    (bindSet binder index set.1 set.2).wp
      (fun _ t => Supplies r.live t.live ∧
        ∃ group, t.list.commands.toList = r.list.commands.toList ++ [.bindGroup index group] ∧
          GroupOf r.live t.live binder index set group)
      (fun _ _ => True) r := by
  simp only [bindSet, wp_bind, wp_onDevice, wp_updateList, wp_push]
  refine (Gpu.wp_allocSet_supplies set.1 r.live).mono ?_ fun _ _ _ => trivial
  rintro taken t ⟨own, took⟩
  refine (Gpu.wp_writeSet taken set.2 binder index t).mono ?_ fun _ _ _ => trivial
  rintro group u ⟨wrote, written⟩
  rw [own] at written
  exact ⟨Evolution.trans took wrote, group, Array.toList_push .., written.from took⟩

/-- Sets are written one after the other, and each group is recorded under the index of its set. -/
theorem wp_bindSets (binder : Binder) (sets : List (CacheHandle × SetLayout)) (first : Nat)
    (r : Recording) :
    wp ((sets.zipIdx first).forM fun ((layout, slots), index) =>
        bindSet binder (UInt32.ofNat index) layout slots)
      (fun _ t => Supplies r.live t.live ∧
        ∃ groups, t.list.commands.toList =
            r.list.commands.toList ++ Recorded.bindAll (numbered first groups) ∧
          List.Forall₂ (fun e group => GroupOf r.live t.live binder (UInt32.ofNat e.2) e.1 group)
            (sets.zipIdx first) groups)
      (fun _ _ => True) r := by
  -- A group that was written sooner has to last, and one that is written later has to be traced
  -- back to the state before the first set.
  induction sets generalizing first r with
  | nil => exact ⟨Evolution.refl _, [], (List.append_nil _).symm, .nil⟩
  | cons set sets ih =>
    rw [List.zipIdx_cons]
    refine (wp_bind _ _).2 ((wp_bindSet binder _ set r).mono ?_ fun _ _ _ => trivial)
    rintro _ t ⟨step, group, pushed, here⟩
    refine (ih (first + 1) t).mono ?_ fun _ _ _ => trivial
    rintro _ u ⟨steps, groups, more, rest⟩
    refine ⟨Evolution.trans step steps, group :: groups, ?_, .cons (here.lasts steps) ?_⟩
    · rw [more, pushed, List.append_assoc]
      rfl
    · exact rest.imp fun _ _ group => group.from step

/-- Binding geometry records what it binds and leaves the device alone. -/
theorem wp_bindGeometry (binder : Binder) (r : Recording) :
    (bindGeometry binder).wp
      (fun _ t => r.live = t.live ∧ Adds Recorded.isGeometry r t) (fun _ _ => True) r := by
  have live : (bindGeometry binder).Evolves (OfLive Eq) :=
    evolves_bindGeometry binder (fun _ => evolves_device (Gpu.evolves_bufferSlice _))
      (fun _ _ _ _ => rfl) fun _ _ _ _ => rfl
  have adds : (bindGeometry binder).Evolves (Adds Recorded.isGeometry) :=
    evolves_bindGeometry binder (fun _ => adds_onDevice _) (fun _ _ _ => adds_push rfl)
      fun _ _ _ => adds_push rfl
  exact ((live r).and (adds r)).mono (fun _ _ ended => ended) fun _ _ _ => trivial

/-- Exactly these groups were recorded, and after them geometry at most. -/
structure BindsAll (binder : Binder) (sets : List (CacheHandle × SetLayout))
    (groups : List BindGroup) (r t : Recording) : Prop where
  supplies : Supplies r.live t.live
  commands : ∃ geometry, t.list.commands.toList =
      r.list.commands.toList ++ Recorded.bindAll (numbered 0 groups) ++ geometry ∧
    ∀ command ∈ geometry, command.isGeometry = true
  groups : List.Forall₂ (fun e => GroupOf r.live t.live binder (UInt32.ofNat e.2) e.1)
    sets.zipIdx groups

theorem BindsAll.length {binder : Binder} {sets : List (CacheHandle × SetLayout)}
    {groups : List BindGroup} {r t : Recording} (h : BindsAll binder sets groups r t) :
    groups.length = sets.length := by
  rw [← h.groups.length_eq, List.length_zipIdx]

/-- The group of an index is that of the set with this number. -/
theorem BindsAll.groupOf {binder : Binder} {sets : List (CacheHandle × SetLayout)}
    {groups : List BindGroup} {r t : Recording} (h : BindsAll binder sets groups r t) {i : Nat}
    {group : BindGroup} (there : groups[i]? = some group) :
    ∃ set, sets[i]? = some set ∧ GroupOf r.live t.live binder (UInt32.ofNat i) set group :=
  GroupOf.of_forall₂ h.groups there

theorem wp_bindResources (binder : Binder) {r : Recording} {bound : BoundPipeline}
    (isBound : r.list.bound = some bound) :
    (bindResources binder).wp (fun _ t => ∃ groups, BindsAll binder bound.sets groups r t)
      (fun _ _ => True) r := by
  simp only [bindResources, wp_bind, wp_checkRecording, wp_current, isBound, wp_orRefuse_some,
    implies_true, and_true]
  intro _
  refine (wp_bindSets binder bound.sets 0 r).mono ?_ fun _ _ _ => trivial
  rintro _ t ⟨step, groups, pushed, each⟩
  refine (wp_ite _ _).2 ⟨fun _ => ?_, fun _ =>
    ⟨groups, step, ⟨[], ?_, List.forall_mem_nil _⟩, each⟩⟩
  · refine (wp_bindGeometry binder t).mono ?_ fun _ _ _ => trivial
    rintro _ u ⟨live, -, geometry, more, all⟩
    rw [live] at step each
    exact ⟨groups, step, ⟨geometry, by rw [more, pushed], all⟩, each⟩
  · rw [pushed, List.append_nil]

end Recording

end DeviceLayer
