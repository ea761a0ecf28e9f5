import DeviceLayer.Proofs.Conservation
import DeviceLayer.Proofs.KernelArguments

/-!
# The list of a launch

A launch records a list of its own: the pipeline of the kernel, one bind group for each of its
indices, and a dispatch.

* `Recorded.ofKernel` — the commands of such a list.
* `Recorded.dispatches_ofKernel` — the dispatch that its native commands come to.
* `Kernel.Records`, `Kernel.wp_record` — recording it.
-/

namespace DeviceLayer

open DeviceLayer.Action

/-! ## Its commands -/

/-- Of groups that are numbered from zero on, the one that is bound last to an index is the one with
its number. -/
theorem Recording.findSome?_numbered {groups : List BindGroup}
    (few : groups.length ≤ UInt32.size) (index : UInt32) :
    ((numbered 0 groups).reverse.findSome? fun e => if index = e.1 then some e.2 else none) =
      groups[index.toNat]? := by
  induction groups using List.reverseRecOn with
  | nil => rfl
  | append_singleton groups group ih =>
    rw [List.length_append, List.length_singleton] at few
    have last : numbered 0 (groups ++ [group]) =
        numbered 0 groups ++ [(UInt32.ofNat groups.length, group)] := by
      simp [numbered, List.zipIdx_append]
    have number : (UInt32.ofNat groups.length).toNat = groups.length :=
      UInt32.toNat_ofNat_of_lt' (Nat.lt_of_succ_le few)
    rw [last, List.reverse_append, List.reverse_singleton, List.singleton_append,
      List.findSome?_cons]
    by_cases here : index = UInt32.ofNat groups.length
    · simp [here, number]
    · have apart : index.toNat ≠ groups.length := fun same =>
        here (UInt32.toNat_inj.1 (same.trans number.symm))
      rw [if_neg here, ih (Nat.le_of_succ_le few)]
      by_cases inside : index.toNat < groups.length
      · rw [List.getElem?_append_left inside]
      · rw [List.getElem?_eq_none (by omega), List.getElem?_eq_none (by simp; omega)]

namespace Recorded

/-- The commands of a kernel's list. -/
def ofKernel (native : NativePipeline) (groups : List BindGroup)
    (counts : UInt32 × UInt32 × UInt32) : List Recorded :=
  .computePipeline native :: bindAll (Recording.numbered 0 groups) ++
    [.dispatch counts.1 counts.2.1 counts.2.2]

theorem ordered_bindAll (groups : List (UInt32 × BindGroup)) (inside : Bool) :
    (bindAll groups).foldlM next? inside = some inside := by
  induction groups with
  | nil => rfl
  | cons e groups ih => cases inside <;> exact ih

theorem lastPipeline_bindAll (before : List Recorded) (groups : List (UInt32 × BindGroup)) :
    lastPipeline (before ++ bindAll groups) = lastPipeline before := by
  have none : (bindAll groups).reverse.findSome? pipeline? = none := by
    rw [List.findSome?_eq_none_iff]
    intro command member
    obtain ⟨e, -, rfl⟩ := List.mem_map.1 (List.mem_reverse.1 member)
    rfl
  rw [lastPipeline, List.reverse_append, List.findSome?_append, none, Option.none_or]
  rfl

/-- A kernel's list has one dispatch, which runs with the kernel's pipeline and the groups by their
numbers. -/
theorem dispatches_ofKernel (native : NativePipeline) {groups : List BindGroup}
    (few : groups.length ≤ UInt32.size) (counts : UInt32 × UInt32 × UInt32) :
    Bindings.dispatches {} (encode (ofKernel native groups counts)) =
      [⟨counts.1, counts.2.1, counts.2.2, some native, fun index => groups[index.toNat]?⟩] := by
  have ordered : (ofKernel native groups counts).foldlM next? false = some false := by
    have first : [.computePipeline native].foldlM next? false = some false := rfl
    have last : [.dispatch counts.1 counts.2.1 counts.2.2].foldlM next? false = some false := rfl
    rw [ofKernel, ← List.singleton_append, List.foldlM_append, List.foldlM_append, first]
    simp only [Option.bind_eq_bind, Option.bind_some, ordered_bindAll, last]
  have quiet : ∀ command ∈ [.computePipeline native] ++ bindAll (Recording.numbered 0 groups),
      ∀ x y z, command ≠ .dispatch x y z := by
    rintro command member x y z rfl
    rcases List.mem_append.1 member with first | group
    · cases List.mem_singleton.1 first
    · obtain ⟨e, -, same⟩ := List.mem_map.1 group
      cases same
  have last : lastGroup ([.computePipeline native] ++ bindAll (Recording.numbered 0 groups)) =
      fun index => groups[index.toNat]? := by
    funext index
    rw [lastGroup_append_groups rfl, Recording.findSome?_numbered few]
    exact Option.or_none
  rw [dispatches_encode ordered, ofKernel, ← List.singleton_append, dispatches_append,
    dispatches_of_none quiet, List.nil_append, List.nil_append, dispatches, bindings,
    lastPipeline_bindAll, last]
  rfl

end Recorded

/-! ## Recording it -/

namespace Kernel

open Recording

/-- Records one dispatch of a kernel. -/
def record (k : Kernel) (binder : Binder) : Action Recording Unit := do
  bindPipeline k.pipeline
  bindResources binder
  dispatch k.groups.1 k.groups.2.1 k.groups.2.2

theorem queue_eq (k : Kernel) (binder : Binder) :
    k.queue binder = k.record binder >>= fun _ => submit false := by
  simp only [queue, record, bind_assoc]

theorem framed_record {F : Recording → Recording → Prop} [Frame F] [Gpu.Growing (OnLive F)]
    (k : Kernel) (binder : Binder) : (k.record binder).Evolves F :=
  (RecordingCall.framed (.bindPipeline k.pipeline)).bind fun _ =>
    (RecordingCall.framed (.bindResources binder)).bind fun _ =>
      RecordingCall.framed (.dispatch ..)

/-- The list of a kernel was recorded, with these groups. -/
structure Records (k : Kernel) (binder : Binder) (native : NativePipeline)
    (groups : List BindGroup) (r t : Recording) : Prop where
  kind : k.pipeline.kind = .compute native
  supplies : Gpu.Supplies r.live t.live
  closed : t.list.closed = Recorded.ofKernel native groups k.groups
  groups : List.Forall₂ (fun e => Gpu.GroupOf r.live t.live binder (UInt32.ofNat e.2) e.1)
    k.pipeline.sets.zipIdx groups

theorem wp_record (k : Kernel) (binder : Binder) {r : Recording} (empty : r.list.commands = #[])
    (outside : r.list.target = none) :
    (k.record binder).wp (fun _ t => ∃ native groups, k.Records binder native groups r t)
      (fun _ _ => True) r := by
  simp only [record, bindPipeline, wp_bind, wp_checkRecording]
  refine ⟨fun _ => ?_, fun _ => trivial⟩
  cases kind : k.pipeline.kind with
  | raster template =>
    -- It can be bound inside a render pass only.
    simp [outside]
  | compute native =>
    have compute : k.pipeline.isGraphics = false := by rw [Pipeline.isGraphics, kind]
    simp only [wp_bind, wp_checkOutsidePass, wp_push, wp_updateList, bindResources, compute,
      wp_checkRecording, wp_current, wp_orRefuse_some, Bool.false_eq_true, if_false, wp_pure,
      implies_true, and_true]
    intro _ _
    refine (wp_bindSets binder k.pipeline.sets 0 _).mono ?_ fun _ _ _ => trivial
    rintro _ t ⟨supplies, groups, commands, each⟩
    simp only [dispatch, wp_bind, wp_checkRecording, wp_current, wp_assert, wp_push, implies_true,
      and_true]
    intro _ closed
    have target : t.list.target = none := Option.isNone_iff_eq_none.1 closed
    refine ⟨native, groups, kind, supplies, ?_, each⟩
    rw [CommandList.closed, Array.toList_push, commands, empty, target]
    exact List.append_nil _

end Kernel

end DeviceLayer
