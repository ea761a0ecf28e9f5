import DeviceLayer.Proofs.BoundGroups

/-!
# How much of the placeholder a shader gets

A shader reflects for each buffer how many bytes it accepts at least, and where a slot has no memory
that much of the placeholder is to be bound. But how much is bound is up to the slot of the binder.
In the binder of a pipeline each slot begins with what the last of the stages reflected for it; a
call may empty it again with any other size, and a binder of another pipeline need not have it.

* `BindEntry.Covers` — an entry is long enough for a shader.
* `Client.placeholder_covers` — when one that shows the placeholder is.
* `Client.emptied_slot_is_short` — a slot that was emptied again.
-/

namespace DeviceLayer

open DeviceLayer.Action

/-- The entry shows as many bytes as a shader accepts for the buffer at least. -/
def BindEntry.Covers (e : BindEntry) (b : ReflectedBinding) : Prop :=
  ∃ range ∈ e.size, b.minSize.toNat ≤ range

/-- The size that a slot of the binder asks for; one that is missing asks for nothing. -/
def Binder.slotSize (b : Binder) (set binding : UInt32) : Nat :=
  ((b.slot? set binding).map (·.size.toNat)).getD 0

namespace Gpu

variable {s t : Live Gpu} {binder : Binder} {index : UInt32} {slot : UInt32 × ResourceKind}
  {e : BindEntry}

/-- No less than what the slot asks for is bound of the placeholder, and no less than it has from
the beginning. -/
theorem Placeholds.covers_iff {size : Nat} (h : Placeholds size e t) (b : ReflectedBinding) :
    e.Covers b ↔
      b.minSize.toNat ≤ placeholderSize ∨ b.minSize.toNat ≤ roundUp copyAlignment size := by
  simp only [BindEntry.Covers, h.size, placeholderLength, Option.mem_some, exists_eq_left']
  omega

/-- An entry shows a placeholder only where the binder has no memory. -/
theorem Written.placeholds (h : Written s t binder index slot e) (padded : Padded s)
    (stocked : Stocked s) (spare : e.buffer.purpose = .placeholder) :
    ∃ v, Placeholds (binder.slotSize index e.binding) e v := by
  obtain ⟨named, u, v, -, -, -, -, shows⟩ := h.shows
  refine ⟨v, shows.placeholder fun b holds => ?_⟩
  -- With memory there, the entry would show a buffer of an allocation.
  have iff := h.purpose_iff padded stocked (named ▸ holds)
  simpa [spare] using iff

end Gpu

namespace Client

/-- A client has its device make a pipeline from sources, calls anything else, and binds the
resources of any binder to the pipeline, which is the bound one of a list. Then each buffer that a
source reflects has its entry in the group of its set. If this shows the placeholder, it is long
enough for the source exactly if the placeholder is so from the beginning, or if the slot of the
binder asks for enough, in whole groups of bytes. In the pipeline's own binder the slot asks for
what the last source reflected that has it, or for what it was rebound with since. -/
theorem placeholder_covers {c₀ c₁ : Client} (reachable : c₀.Reachable)
    {sources : List ShaderSource} {p : Pipeline} (made : c₀.Makes sources p c₁) (calls : List Call)
    {list : CommandList} (isBound : list.bound = some ⟨p.isGraphics, p.sets⟩) {binder : Binder}
    {t : Recording}
    (ended : (Recording.bindResources binder).outcome ⟨(c₁.run calls).live, list⟩ = (.ok (), t)) :
    ∃ stages groups geometry, sources.mapM ShaderSource.reflectStage = .ok stages ∧
      t.list.commands.toList = list.commands.toList ++
        Recorded.bindAll (Recording.numbered 0 groups) ++ geometry ∧
      (∀ command ∈ geometry, command.isGeometry = true) ∧
      ∀ b ∈ Reflection.buffers stages, ∃ group, groups[b.1.set.toNat]? = some group ∧
        (∃ e ∈ group.windows.entries, e.binding = b.1.binding) ∧
        ∀ e ∈ group.windows.entries, e.binding = b.1.binding → e.buffer.purpose = .placeholder →
          (e.Covers b.1 ↔ b.1.minSize.toNat ≤ Gpu.placeholderSize ∨
            b.1.minSize.toNat ≤ roundUp copyAlignment (binder.slotSize b.1.set b.1.binding)) ∧
          ∀ rebinds slot, binder = p.binder.after rebinds →
            Reflection.slot? stages b.1.set b.1.binding = some slot →
            b.1.minSize ≤ (BinderCall.latest rebinds b.1.set b.1.binding slot).size →
            e.Covers b.1 := by
  have later : (c₁.run calls).Reachable := (made.reachable reachable).after calls
  obtain ⟨stages, groups, reflected, laid, binds, count⟩ := made.binds calls isBound ended
  obtain ⟨geometry, commands, isGeometry⟩ := binds.commands
  refine ⟨stages, groups, geometry, reflected, commands, isGeometry, fun b member => ?_⟩
  have within : b.1.set.toNat < groups.length := (count _).2 ⟨b, member, Nat.le_refl _⟩
  have there : groups[b.1.set.toNat]? = some groups[b.1.set.toNat] :=
    List.getElem?_eq_getElem within
  obtain ⟨set, -, groupOf, bound⟩ := laid.group binds there
  rw [UInt32.ofNat_toNat] at groupOf bound
  refine ⟨_, there, ?_, fun e inGroup named spare => ?_⟩
  · exact List.mem_map.1 ((bound.places b.1.binding).2 ⟨b, member, rfl, rfl⟩)
  · obtain ⟨slot, -, written⟩ := groupOf.entry inGroup
    obtain ⟨v, placeholds⟩ := written.placeholds later.padded later.stocked spare
    rw [named] at placeholds
    have iff := placeholds.covers_iff b.1
    refine ⟨iff, fun rebinds first own entered enough => iff.2 (.inr ?_)⟩
    rw [Binder.slotSize, own, laid.binder, slot?_lockedBinder_after, entered]
    exact Nat.le_trans (UInt64.le_iff_toNat_le.1 enough) (le_roundUp (by decide) _)

/-- A compute shader with a uniform buffer of 512 bytes. -/
def wide : ShaderSource := .ofGlobals [⟨some (0, 0), .uniform, .array (.vector 4) 32⟩]

def wideSlot : ReflectedBinding := ⟨0, 0, .uniformBuffer, 512⟩

theorem reflectStage_wide : wide.reflectStage = .ok ⟨[wideSlot], [("main", .compute)]⟩ :=
  ShaderSource.reflectStage_ofGlobals (by decide) (by decide)

/-- The pipeline that a device makes of it first. -/
def widePipeline : Pipeline where
  id := 0
  name := "k"
  binder := lockedBinder [⟨[wideSlot], [("main", .compute)]⟩]
  sets := [(⟨0⟩, .ofEntries [(0, .readOnlyBuffer)])]
  layout := ⟨"k", [⟨⟨.layout, 0⟩, ⟨.layout, 0⟩⟩]⟩
  kind := .compute ⟨⟨.computePipeline, 0⟩, ⟨.computePipeline, 0⟩⟩

def withWide : Client := ((opened ⟨1⟩).onDevice (Gpu.createComputePipeline wide "k")).2

theorem makes_wide : (opened ⟨1⟩).Makes [wide] widePipeline withWide := by
  refine .compute (Prod.ext ?_ rfl)
  simp only [onDevice, Gpu.createComputePipeline, reflectStage_wide]
  rfl

/-- What binding its resources comes to, from its binder after calls. -/
def bindWide (rebinds : List BinderCall) : Except Fault Unit × Recording :=
  (Recording.bindResources (widePipeline.binder.after rebinds)).outcome
    ⟨withWide.live, { buffer := ⟨0⟩, bound := some ⟨false, widePipeline.sets⟩ }⟩

/-- The group that has so many bytes of the `n`-th placeholder. -/
def spareGroup (n range : Nat) : BindGroup :=
  let name : ObjectName := ⟨.placeholder, n⟩
  let windows : BindWindows :=
    ⟨⟨⟨.layout, 0⟩, ⟨.layout, 0⟩⟩, [⟨0, ⟨n, ⟨0, {}⟩, .placeholder, name, name⟩, 0, some range⟩]⟩
  ⟨windows, windows⟩

/-- As long as nothing rebinds the slot, all that the shader accepts at least is there: a second
placeholder is made for it. -/
theorem placeholder_covers_wide :
    (bindWide []).1 = .ok () ∧
      (bindWide []).2.list.commands.toList = [.bindGroup 0 (spareGroup 1 512)] ∧
      ∀ e ∈ (spareGroup 1 512).windows.entries, e.Covers wideSlot := by
  obtain ⟨succeeds, recorded⟩ : (bindWide []).1 = .ok () ∧
      (bindWide []).2.list.commands.toList = [.bindGroup 0 (spareGroup 1 512)] := by
    simp only [bindWide, withWide, onDevice, Gpu.createComputePipeline, reflectStage_wide]
    exact ⟨rfl, rfl⟩
  refine ⟨succeeds, recorded, fun e member => ?_⟩
  obtain ⟨stages, groups, geometry, reflected, commands, -, each⟩ :=
    placeholder_covers ⟨_, fresh_opened ⟨1⟩, [], rfl⟩ makes_wide [] rfl (Prod.ext succeeds rfl)
  obtain rfl : stages = [⟨[wideSlot], [("main", .compute)]⟩] := by
    simpa [reflectStage_wide, eq_comm] using reflected
  obtain ⟨group, first, -, all⟩ := each (wideSlot, .readOnlyBuffer) (List.mem_singleton_self _)
  have same : spareGroup 1 512 = group := by
    obtain ⟨rest, rfl⟩ : ∃ rest, groups = group :: rest := by
      cases groups with
      | nil => cases first
      | cons g rest => exact ⟨rest, by rw [← Option.some.inj first]⟩
    have ended := recorded.symm.trans commands
    simp only [Recording.numbered, Recorded.bindAll] at ended
    exact (Recorded.bindGroup.inj (List.cons.inj ended).1).2
  subst same
  obtain rfl := List.mem_singleton.1 member
  obtain ⟨-, own⟩ := all _ member rfl rfl
  exact own [] ⟨.readOnlyBuffer, .null, 512⟩ rfl rfl (by decide)

/-- But one call is enough to empty the slot again so that less is bound. -/
theorem emptied_slot_is_short :
    ¬∀ c₀ : Client, c₀.Reachable → ∀ sources p c₁, c₀.Makes sources p c₁ →
      ∀ calls list, list.bound = some ⟨p.isGraphics, p.sets⟩ → ∀ binder t,
      (Recording.bindResources binder).outcome ⟨(c₁.run calls).live, list⟩ = (.ok (), t) →
      ∀ stages, sources.mapM ShaderSource.reflectStage = .ok stages →
      ∀ recorded, t.list.commands.toList = list.commands.toList ++ recorded →
      ∀ set group, .bindGroup set group ∈ recorded →
      ∀ e ∈ group.windows.entries, e.buffer.purpose = .placeholder →
      ∀ b ∈ Reflection.buffers stages, b.1.set = set → b.1.binding = e.binding → e.Covers b.1 := by
  intro always
  let rebind : BinderCall := .bind 0 0 .readOnlyBuffer .null (.window 0)
  obtain ⟨succeeds, recorded⟩ : (bindWide [rebind]).1 = .ok () ∧
      (bindWide [rebind]).2.list.commands.toList = [.bindGroup 0 (spareGroup 0 256)] := by
    simp only [rebind, bindWide, withWide, onDevice, Gpu.createComputePipeline, reflectStage_wide]
    exact ⟨rfl, rfl⟩
  have reflected : [wide].mapM ShaderSource.reflectStage =
      .ok [⟨[wideSlot], [("main", .compute)]⟩] := by
    simp [reflectStage_wide]
  have covers := always _ ⟨_, fresh_opened ⟨1⟩, [], rfl⟩ _ _ _ makes_wide [] _ rfl _ _
    (Prod.ext succeeds rfl) _ reflected _ recorded 0 _ (List.mem_singleton_self _) _
    (List.mem_singleton_self _) rfl (wideSlot, .readOnlyBuffer) (List.mem_singleton_self _) rfl rfl
  obtain ⟨range, shown, enough⟩ := covers
  obtain rfl := Option.some.inj shown
  exact absurd enough (by decide)

end Client

end DeviceLayer
