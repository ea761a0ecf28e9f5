import DeviceLayer.Proofs.SlotWindows

/-!
# What binding resources records

Binding resources records one bind group for each index of the bound pipeline. What is in it goes
back to the shaders: an entry for each buffer that they expect in the set, which shows the memory
that the binder has for it or else enough of the placeholder.

* `BindGroup.Binds` — the bind group of one index.
* `Client.resources_bound` — what binding resources records.
-/

namespace DeviceLayer

open DeviceLayer.Action

/-- The bind group of an index of a pipeline with these stages, bound from a binder. -/
structure BindGroup.Binds (group : BindGroup) (stages : List Reflection) (binder : Binder)
    (set : UInt32) (s t : Live Gpu) : Prop where
  /-- It is of the native layout that the device has for the slots of the set, and for no others. -/
  layout : ∃ handle slots, t.device.layouts.lookup slots = some handle ∧
    (t.device.layouts.get? handle).map (·.native) = some group.windows.layout ∧
    ∀ n, slots.get? n = (Reflection.slot? stages set n).map (·.kind)
  /-- It has one entry for each buffer that the stages expect in the set. -/
  places : ∀ n, n ∈ group.windows.entries.map (·.binding) ↔
    ∃ b ∈ Reflection.buffers stages, b.1.set = set ∧ b.1.binding = n
  ascending : group.windows.entries.Pairwise (·.binding < ·.binding)
  /-- Each entry shows what it is to show, at the moment when it was made. -/
  entries : ∀ e ∈ group.windows.entries, ∃ kind u v, Gpu.Pads s u ∧
    (Gpu.bindSlot binder set e.binding kind).outcome u = (.ok e, v) ∧ Gpu.Pads u v ∧
      Gpu.Pads v t ∧ e.Shows s v binder set kind

/-- The entries that do not show a placeholder. -/
def BindGroup.memoryEntries (group : BindGroup) : List BindEntry :=
  group.windows.entries.filter fun e => decide (e.buffer.purpose ≠ .placeholder)

/-- Calls leave the layouts of a pipeline's binder. -/
theorem setLayout?_lockedBinder_after (stages : List Reflection) (calls : List BinderCall)
    (set : UInt32) :
    ((lockedBinder stages).after calls).setLayout? set = (lockedBinder stages).setLayout? set := by
  rw [lockedBinder_eq]
  exact ((Binder.Holds.lock _).run calls).layouts set

/-- Calls move its slots on. -/
theorem slot?_lockedBinder_after (stages : List Reflection) (calls : List BinderCall)
    (set n : UInt32) :
    ((lockedBinder stages).after calls).slot? set n =
      (Reflection.slot? stages set n).map (BinderCall.latest calls set n) := by
  rw [← lockedBinder_slot?, lockedBinder_eq]
  exact ((Binder.Holds.lock _).run calls).slots set n

/-- A compute shader with global variables. -/
def ShaderSource.ofGlobals (globals : List GlobalVariable) : ShaderSource :=
  ⟨.module .binary ⟨globals, [⟨"main", some .compute⟩]⟩, .compute, "main"⟩

/-- It is taken in if its bound variables have a size, and reflects them as they are if they are in
order. -/
theorem ShaderSource.reflectStage_ofGlobals {globals : List GlobalVariable}
    (sized : ShaderModule.boundHaveSize ⟨globals, []⟩ = true)
    (ordered : (globals.filterMap GlobalVariable.reflect?).Pairwise
      fun a b => ReflectedBinding.before a b = true) :
    (ofGlobals globals).reflectStage =
      .ok ⟨globals.filterMap GlobalVariable.reflect?, [("main", .compute)]⟩ := by
  have whole : ShaderModule.boundHaveSize ⟨globals, [⟨"main", some .compute⟩]⟩ = true := sized
  have reflects : (ofGlobals globals).reflect =
      .ok ⟨globals.filterMap GlobalVariable.reflect?, [("main", .compute)]⟩ := by
    rw [reflect, ofGlobals, parse, ← List.mergeSort_of_pairwise ordered]
    exact if_pos whole
  rw [reflectStage, reflects]
  rfl

theorem Reflection.isSome_slot? (stages : List Reflection) (set n : UInt32) :
    (Reflection.slot? stages set n).isSome = true ↔
      ∃ b ∈ Reflection.buffers stages, b.1.set = set ∧ b.1.binding = n := by
  simp [Reflection.slot?, List.find?_isSome]

namespace Gpu

variable {s t : Live Gpu} {binder : Binder} {index : UInt32} {set : CacheHandle × SetLayout}
  {group : BindGroup}

/-- A group that is made for the layout that the stages of a pipeline ask for has one entry for each
buffer that they expect in the set. -/
theorem GroupOf.places {stages : List Reflection} (h : GroupOf s t binder index set group)
    (slots : set.2 = ((lockedBinder stages).setLayout? index).getD ∅) (n : UInt32) :
    n ∈ group.windows.entries.map (·.binding) ↔
      (Reflection.slot? stages index n).isSome = true := by
  rw [h.bindings, ← lockedBinder_slot?, ← Option.isSome_map (f := (·.kind)),
    ← Binder.get?_setLayout, ← slots, Option.isSome_iff_exists]
  simp only [SortedMap.get?_eq_some_iff]
  simp [SortedMap.keys, SortedMap.toList]

theorem GroupOf.ascending (h : GroupOf s t binder index set group) :
    group.windows.entries.Pairwise (·.binding < ·.binding) := by
  have ascending : (group.windows.entries.map (·.binding)).Pairwise (· < ·) := by
    rw [h.bindings, SortedMap.keys, List.pairwise_map]
    exact set.2.sorted.imp fun before => UInt32.lt_iff_toNat_lt.2 (Int.ofNat_lt.1 before)
  exact List.pairwise_map.1 ascending

/-- A group of the layout that the stages of a pipeline ask for. -/
theorem GroupOf.binds {stages : List Reflection} (h : GroupOf s t binder index set group)
    (slots : set.2 = ((lockedBinder stages).setLayout? index).getD ∅)
    (lays : t.device.Lays set) : group.Binds stages binder index s t where
  layout := by
    refine ⟨set.1, set.2, lays, h.layout, fun n => ?_⟩
    rw [slots, Binder.get?_setLayout, lockedBinder_slot?]
  places n := (h.places slots n).trans (Reflection.isSome_slot? stages index n)
  ascending := h.ascending
  entries e member := by
    obtain ⟨slot, -, written⟩ := h.entry member
    obtain ⟨-, u, v, shown⟩ := written.shows
    exact ⟨slot.2, u, v, shown⟩

/-- Entries of slots that hold memory show no placeholder, and all others do. -/
theorem Written.purpose_iff (h : Written s t binder index slot e) (padded : Padded s)
    (stocked : Stocked s) {b : Binding} (holds : binder.slot? index slot.1 = some b) :
    e.buffer.purpose ≠ .placeholder ↔ b.pointer.isNull = false := by
  obtain ⟨named, u, v, before, -, between, -, shows⟩ := h.shows
  rw [← named] at holds
  cases null : b.pointer.isNull with
  | false =>
    obtain ⟨a, windows⟩ := shows.memory holds null
    obtain ⟨type, purpose⟩ := (stocked _ a windows.held).purpose
    simp [windows.buffer, purpose]
  | true =>
    have empty : ∀ c, binder.slot? index e.binding = some c → c.pointer.isNull = true := by
      intro c held
      rwa [← Option.some.inj (holds.symm.trans held)]
    simp [(shows.placeholder empty).buffer, (between.padded (before.padded padded)).purpose]

/-- Where the layout is that of the binder's set, the entries that show memory are the descriptor
writes of the set. -/
theorem GroupOf.memoryEntries (h : GroupOf s t binder index set group) (padded : Padded s)
    (stocked : Stocked s) (slots : set.2 = (binder.setLayout? index).getD ∅) :
    List.Forall₂ (fun w e => e.binding = w.binding ∧ ∃ a kind, s.device.Windows a kind w.slot e)
      (binder.descriptorWrites index) group.memoryEntries := by
  have own : set.2.toList = (binder.slots index).map fun x => (x.1, x.2.kind) := by
    rw [slots, Binder.setLayout?, Binder.slots]
    cases binder.sets.get? index <;> rfl
  have held : ∀ x ∈ binder.slots index, binder.slot? index x.1 = some x.2 := by
    intro x member
    have found := SortedMap.get?_eq_some_iff.2 member
    rw [Binder.slot?]
    cases known : binder.sets.get? index with
    | none => simp [known] at found
    | some bound => simpa [known] using found
  -- The entries go side by side with the binder's slots, so both can be filtered at once.
  have written := h.entries
  rw [own, List.forall₂_map_left_iff] at written
  have kept := List.rel_filter (p := fun x => !x.2.pointer.isNull)
    (q := fun e => decide (e.buffer.purpose ≠ .placeholder)) ?_
    ((List.forall₂_and_left _ _).2 ⟨held, written⟩)
  · have notNull : ∀ x ∈ (binder.slots index).filter fun x => !x.2.pointer.isNull,
        x.2.pointer.isNull = false := fun x member => by simpa using (List.mem_filter.1 member).2
    refine List.forall₂_map_left_iff.2 (((List.forall₂_and_left _ _).2 ⟨notNull, kept⟩).imp ?_)
    rintro x e ⟨notNull, holds, written⟩
    obtain ⟨named, u, v, -, -, -, -, shows⟩ := written.shows
    obtain ⟨a, windows⟩ := shows.memory (named ▸ holds) notNull
    exact ⟨named, a, _, windows⟩
  · rintro x e ⟨holds, written⟩
    have iff := written.purpose_iff padded stocked holds
    simpa using iff.symm

end Gpu

/-- The groups that are recorded for a pipeline are those of its layouts. -/
theorem Pipeline.Laid.group {p : Pipeline} {stages : List Reflection} {binder : Binder}
    {groups : List BindGroup} {group : BindGroup} {r t : Recording} {i : Nat}
    (laid : p.Laid stages r.live.device) (binds : Recording.BindsAll binder p.sets groups r t)
    (there : groups[i]? = some group) :
    ∃ set, set.2 = ((lockedBinder stages).setLayout? (UInt32.ofNat i)).getD ∅ ∧
      Gpu.GroupOf r.live t.live binder (UInt32.ofNat i) set group ∧
      group.Binds stages binder (UInt32.ofNat i) r.live t.live := by
  obtain ⟨set, known, groupOf⟩ := binds.groupOf there
  have slots := laid.sets.slots known
  rw [laid.binder] at slots
  have lays := binds.supplies.shelves.lays (laid.sets.lays set (List.mem_of_getElem? known))
  exact ⟨set, slots, groupOf, groupOf.binds slots lays⟩

namespace Client

/-- The resources of any binder are bound to a pipeline that was made from sources: by one group for
each index up to the highest set in which the sources reflect a buffer. -/
theorem Makes.binds {c₀ c₁ : Client} {sources : List ShaderSource} {p : Pipeline}
    (made : c₀.Makes sources p c₁) (calls : List Call) {list : CommandList}
    (isBound : list.bound = some ⟨p.isGraphics, p.sets⟩) {binder : Binder} {t : Recording}
    (ended : (Recording.bindResources binder).outcome ⟨(c₁.run calls).live, list⟩ = (.ok (), t)) :
    ∃ stages groups, sources.mapM ShaderSource.reflectStage = .ok stages ∧
      p.Laid stages (c₁.run calls).live.device ∧
      Recording.BindsAll binder p.sets groups ⟨(c₁.run calls).live, list⟩ t ∧
      ∀ i, i < groups.length ↔ ∃ b ∈ Reflection.buffers stages, i ≤ b.1.set.toNat := by
  obtain ⟨stages, reflected, laid⟩ := made.laid calls
  obtain ⟨groups, binds⟩ := (Recording.wp_bindResources binder isBound).ended ended
  refine ⟨stages, groups, reflected, laid, binds, fun i => ?_⟩
  rw [binds.length, Gpu.lt_groupCount laid.sets.count, laid.binder]
  simp only [isSome_sets_lockedBinder]
  constructor
  · rintro ⟨set, ⟨b, member, rfl⟩, below⟩
    exact ⟨b, member, below⟩
  · exact fun ⟨b, member, below⟩ => ⟨_, ⟨b, member, rfl⟩, below⟩

/-- A client has its device make a pipeline from sources, calls anything else, and binds the
resources of any binder to the pipeline, which is the bound one of a list. If this succeeds, it has
recorded one bind group for each index up to the highest set in which the sources reflect a
buffer, in order, and after them vertex and index buffers at most. Each has an entry for every
buffer of its set, in ascending order, which shows the memory of the binder's slot, or the
placeholder as far as it goes. The entries that show memory are the descriptor writes of the set, if
the binder is the pipeline's own. And the placeholder never becomes shorter. -/
theorem resources_bound {c₀ c₁ : Client} (reachable : c₀.Reachable) {sources : List ShaderSource}
    {p : Pipeline} (made : c₀.Makes sources p c₁) (calls : List Call) {list : CommandList}
    (isBound : list.bound = some ⟨p.isGraphics, p.sets⟩) {binder : Binder} {t : Recording}
    (ended : (Recording.bindResources binder).outcome ⟨(c₁.run calls).live, list⟩ = (.ok (), t)) :
    let c := c₁.run calls
    (∃ stages groups geometry, sources.mapM ShaderSource.reflectStage = .ok stages ∧
      t.list.commands.toList = list.commands.toList ++
        Recorded.bindAll (Recording.numbered 0 groups) ++ geometry ∧
      (∀ command ∈ geometry, command.isGeometry = true) ∧
      (∀ i, i < groups.length ↔ ∃ b ∈ Reflection.buffers stages, i ≤ b.1.set.toNat) ∧
      ∀ i group, groups[i]? = some group →
        group.Binds stages binder (UInt32.ofNat i) c.live t.live ∧
        ∀ rebinds, binder = p.binder.after rebinds →
          List.Forall₂
            (fun w e => e.binding = w.binding ∧ ∃ a kind, c.live.device.Windows a kind w.slot e)
            (binder.descriptorWrites (UInt32.ofNat i)) group.memoryEntries) ∧
    ∀ sooner later : List Call,
      let s := (c₀.run sooner).live
      let t := ((c₀.run sooner).run later).live
      s.platform.bufferSize s.device.placeholder ≤ t.platform.bufferSize t.device.placeholder := by
  intro c
  have lasts (sooner later : List Call) :=
    ((c₀.run sooner).pads_run later).placeholder (reachable.after sooner).padded
  have reachable : c.Reachable := (made.reachable reachable).after calls
  obtain ⟨stages, groups, reflected, laid, binds, count⟩ := made.binds calls isBound ended
  obtain ⟨geometry, commands, isGeometry⟩ := binds.commands
  refine ⟨⟨stages, groups, geometry, reflected, commands, isGeometry, count, ?_⟩, lasts⟩
  intro i group there
  obtain ⟨set, slots, groupOf, bound⟩ := laid.group binds there
  refine ⟨bound, fun rebinds own => ?_⟩
  refine groupOf.memoryEntries reachable.padded reachable.stocked ?_
  rw [slots, own, laid.binder, setLayout?_lockedBinder_after]

/-- A compute shader with a buffer in the first set and one in the third. -/
def gapped : ShaderSource :=
  .ofGlobals [⟨some (0, 0), .storage true, .scalar⟩, ⟨some (2, 1), .uniform, .vector 4⟩]

def gappedSlots : Reflection where
  bindings := [⟨0, 0, .storageBuffer true, 4⟩, ⟨2, 1, .uniformBuffer, 16⟩]
  entryPoints := [("main", .compute)]

theorem reflectStage_gapped : gapped.reflectStage = .ok gappedSlots :=
  ShaderSource.reflectStage_ofGlobals (by decide) (by decide)

/-- The pipeline that a device makes of it first. -/
def gappedPipeline : Pipeline where
  id := 0
  name := "k"
  binder := lockedBinder [gappedSlots]
  sets := [(⟨0⟩, .ofEntries [(0, .readWriteBuffer)]), (⟨1⟩, ∅),
    (⟨2⟩, .ofEntries [(1, .readOnlyBuffer)])]
  layout :=
    let native (n : Nat) : NativeLayout := ⟨⟨.layout, n⟩, ⟨.layout, n⟩⟩
    ⟨"k", [native 0, native 1, native 2]⟩
  kind := .compute ⟨⟨.computePipeline, 0⟩, ⟨.computePipeline, 0⟩⟩

/-- Of its two slots one is bound to the second half of an allocation. -/
theorem resources_bound_gapped :
    let c₀ := (opened ⟨1⟩).run [.device (.memory (.allocate (.deviceLocal 512)))]
    let c₁ := (c₀.onDevice (Gpu.createComputePipeline gapped "k")).2
    let rebind : BinderCall := .bind 0 0 .readWriteBuffer ⟨⟨1⟩, 0, 256⟩ (.window 16)
    let list : CommandList := { buffer := ⟨0⟩, bound := some ⟨false, gappedPipeline.sets⟩ }
    let ended := (Recording.bindResources (gappedPipeline.binder.after [rebind])).outcome
      ⟨c₁.live, list⟩
    ended.1 = .ok () ∧ ∃ groups geometry,
      ended.2.list.commands.toList =
        Recorded.bindAll (Recording.numbered 0 groups) ++ geometry ∧
      groups.length = 3 ∧
      ∀ group, groups[0]? = some group → group.memoryEntries.length = 1 := by
  intro c₀ c₁ rebind list ended
  have reachable : c₀.Reachable := ⟨opened ⟨1⟩, fresh_opened ⟨1⟩, _, rfl⟩
  have made : c₀.onDevice (Gpu.createComputePipeline gapped "k") = (.ok gappedPipeline, c₁) := by
    refine Prod.ext ?_ rfl
    simp only [c₀, Client.onDevice, Gpu.createComputePipeline, reflectStage_gapped]
    rfl
  have succeeds : ended.1 = .ok () := by
    simp only [ended, c₁, c₀, list, rebind, onDevice, Gpu.createComputePipeline,
      reflectStage_gapped]
    decide +kernel
  have isBound : list.bound = some ⟨gappedPipeline.isGraphics, gappedPipeline.sets⟩ := rfl
  obtain ⟨⟨stages, groups, geometry, reflected, commands, -, count, each⟩, -⟩ :=
    resources_bound reachable (.compute made) [] isBound (Prod.ext succeeds rfl)
  obtain rfl : stages = [gappedSlots] := by
    simpa [reflectStage_gapped, eq_comm] using reflected
  refine ⟨succeeds, groups, geometry, commands, ?_, fun group first => ?_⟩
  · have third : 2 < groups.length := (count 2).2 (by decide +kernel)
    have noFourth : ¬3 < groups.length := fun more => absurd ((count 3).1 more) (by decide +kernel)
    omega
  · rw [← ((each 0 group first).2 [rebind] rfl).length_eq]
    decide +kernel

end Client

end DeviceLayer
