import DeviceLayer.Gpu.Kernel
import DeviceLayer.Proofs.BoundGroups

/-!
# What a launch binds

A launch goes through the arguments of its kernel and binds the range of each. The binder of the
kernel's pipeline is locked, so an argument that names a slot which no stage reflects is dropped,
and of several that name one slot the last one counts.

* `KernelArgument.call` — an argument as a call to the binder.
* `Kernel.range?` — the range that a launch has for a slot.
* `Kernel.bind_eq_ok` — the binder of a launch.
* `Kernel.bind_trimmed` — arguments that name no reflected slot can be left out.
-/

namespace DeviceLayer

open DeviceLayer.Action

namespace KernelArgument

/-- The argument names the slot. -/
def Names (a : KernelArgument) (set binding : UInt32) : Prop := a.set = set ∧ a.binding = binding

instance (a : KernelArgument) (set binding : UInt32) : Decidable (a.Names set binding) :=
  inferInstanceAs (Decidable (_ ∧ _))

/-- The call that binds a range to the slot of the argument. -/
def call (a : KernelArgument) (range : Range) : BinderCall :=
  .bind a.set a.binding .readWriteBuffer range.start (.window range.length)

/-- The calls for all arguments whose nodes are mapped. -/
def calls (mapping : Mapping) (arguments : List KernelArgument) : List BinderCall :=
  arguments.filterMap fun a => (mapping.get? a.node).map a.call

end KernelArgument

/-- A slot that shows a range. -/
def Range.slot (range : Range) : Binding := ⟨.readWriteBuffer, range.start, range.length⟩

theorem KernelArgument.asks?_call (a : KernelArgument) (range : Range) (set binding : UInt32) :
    (a.call range).asks? set binding = if a.Names set binding then some range.slot else none := by
  simp only [call, BinderCall.asks?, Names, eq_comm]
  rfl

namespace Kernel

/-- The range that is mapped for the last argument that names the slot. -/
def range? (k : Kernel) (mapping : Mapping) (set binding : UInt32) : Option Range :=
  (k.arguments.filter (·.Names set binding)).getLast?.bind fun a => mapping.get? a.node

/-- One argument of a launch is bound. -/
def bindArgument (name : String) (mapping : Mapping) (b : Binder) (a : KernelArgument) :
    Except Fault Binder :=
  match mapping.get? a.node with
  | none => .error (.device (.precondition (.unmappedNode name a.node)))
  | some range => b.bind a.set a.binding .readWriteBuffer range.start range.length

theorem bind_eq (k : Kernel) (mapping : Mapping) :
    k.bind mapping = k.arguments.foldlM (bindArgument k.pipeline.name mapping) k.pipeline.binder :=
  rfl

/-! ## One argument -/

/-- The argument has a range, and its slot, if the binder has it, can be written. -/
structure Takes (mapping : Mapping) (b : Binder) (a : KernelArgument) : Prop where
  mapped : ∃ range, mapping.get? a.node = some range
  writable : ∀ slot, b.slot? a.set a.binding = some slot → slot.kind = .readWriteBuffer

variable {name : String} {mapping : Mapping} {b c d : Binder} {a : KernelArgument}
  {arguments : List KernelArgument} {made : List BinderCall}

/-- Binding an argument is to make its call. -/
theorem bindArgument_eq_ok (bound : bindArgument name mapping b a = .ok c) :
    ∃ range, mapping.get? a.node = some range ∧ (a.call range).run.outcome b = (.ok (), c) := by
  unfold bindArgument at bound
  cases mapped : mapping.get? a.node with
  | none =>
    rw [mapped] at bound
    cases bound
  | some range =>
    rw [mapped] at bound
    have bound : b.bind a.set a.binding .readWriteBuffer range.start range.length = .ok c := bound
    refine ⟨range, rfl, (Binder.bindSlot_outcome b a.set a.binding _ _ _).trans ?_⟩
    rw [bound]

/-- To a locked binder it is made only if the slot can be written, and for no slot it is dropped. -/
theorem bindArgument_locked (locked : b.locked = true)
    (bound : bindArgument name mapping b a = .ok c) :
    Takes mapping b a ∧ (b.slot? a.set a.binding = none → c = b) := by
  obtain ⟨range, mapped, ran⟩ := bindArgument_eq_ok bound
  have asks : (a.call range).asks? a.set a.binding = some range.slot := by
    rw [KernelArgument.asks?_call, if_pos ⟨rfl, rfl⟩]
  rw [Binder.run_asking locked asks] at ran
  refine ⟨⟨⟨range, mapped⟩, fun slot held => ?_⟩, fun none => ?_⟩
  · rw [held] at ran
    by_contra other
    simp [Range.slot, other] at ran
  · rw [none] at ran
    exact (congrArg Prod.snd ran).symm

/-! ## All arguments -/

theorem foldlM_bindArgument_cons
    (bound : (a :: arguments).foldlM (bindArgument name mapping) c = .ok d) :
    ∃ next, bindArgument name mapping c a = .ok next ∧
      arguments.foldlM (bindArgument name mapping) next = .ok d := by
  rw [List.foldlM_cons] at bound
  cases first : bindArgument name mapping c a with
  | error e =>
    rw [first] at bound
    cases bound
  | ok next =>
    rw [first] at bound
    exact ⟨next, rfl, bound⟩

/-- Whether an argument takes depends on the slots that the binder was locked with. -/
theorem Takes.holds (holds : Binder.Holds b c made) (takes : Takes mapping c a) :
    Takes mapping b a where
  mapped := takes.mapped
  writable slot held := by
    have now := takes.writable (BinderCall.latest made a.set a.binding slot) (by
      rw [holds.slots, held]
      rfl)
    exact (BinderCall.latest_kind ..).symm.trans now

theorem bindArgument_holds (holds : Binder.Holds b c made)
    (bound : bindArgument name mapping c a = .ok d) :
    ∃ range, mapping.get? a.node = some range ∧
      Binder.Holds b d (made ++ [a.call range]) := by
  obtain ⟨range, mapped, ran⟩ := bindArgument_eq_ok bound
  have step := holds.step (a.call range)
  rw [ran] at step
  exact ⟨range, mapped, step⟩

/-- From a binder that was locked and called since on, the calls of the arguments are made too. -/
theorem foldlM_bindArgument (holds : Binder.Holds b c made)
    (bound : arguments.foldlM (bindArgument name mapping) c = .ok d) :
    Binder.Holds b d (made ++ KernelArgument.calls mapping arguments) ∧
      ∀ a ∈ arguments, Takes mapping b a := by
  induction arguments generalizing c made with
  | nil =>
    obtain rfl := Except.ok.inj bound
    exact ⟨by simpa [KernelArgument.calls] using holds, List.forall_mem_nil _⟩
  | cons a arguments ih =>
    obtain ⟨next, first, bound⟩ := foldlM_bindArgument_cons bound
    obtain ⟨range, mapped, step⟩ := bindArgument_holds holds first
    obtain ⟨rest, take⟩ := ih step bound
    refine ⟨?_, List.forall_mem_cons.2 ⟨?_, take⟩⟩
    · simpa [KernelArgument.calls, mapped] using rest
    · exact (bindArgument_locked holds.locked first).1.holds holds

/-- Arguments that name none of the slots do nothing. -/
theorem foldlM_bindArgument_filter (holds : Binder.Holds b c made)
    (bound : arguments.foldlM (bindArgument name mapping) c = .ok d) :
    (arguments.filter fun a => (b.slot? a.set a.binding).isSome).foldlM
      (bindArgument name mapping) c = .ok d := by
  induction arguments generalizing c made with
  | nil => exact bound
  | cons a arguments ih =>
    obtain ⟨next, first, bound⟩ := foldlM_bindArgument_cons bound
    obtain ⟨range, -, step⟩ := bindArgument_holds holds first
    have rest := ih step bound
    cases held : b.slot? a.set a.binding with
    | some slot =>
      rw [List.filter_cons_of_pos (by rw [held]; rfl), List.foldlM_cons, first]
      exact rest
    | none =>
      -- The argument left the binder as it was.
      have unknown : c.slot? a.set a.binding = none := by rw [holds.slots, held, Option.map_none]
      rw [(bindArgument_locked holds.locked first).2 unknown] at rest
      rwa [List.filter_cons_of_neg (by simp [held])]

/-- What a slot holds after the calls of mapped arguments: the range of the last one that names
it. -/
theorem latest_calls (mapped : ∀ a ∈ arguments, ∃ range, mapping.get? a.node = some range)
    {set binding : UInt32} {slot : Binding}
    (writable : ∀ a ∈ arguments, a.Names set binding → slot.kind = .readWriteBuffer) :
    BinderCall.latest (KernelArgument.calls mapping arguments) set binding slot =
      (((arguments.filter (·.Names set binding)).getLast?.bind fun a =>
        mapping.get? a.node).map Range.slot).getD slot := by
  induction arguments using List.reverseRecOn with
  | nil => rfl
  | append_singleton arguments a ih =>
    obtain ⟨mapped, last⟩ := List.forall_mem_append.1 mapped
    obtain ⟨range, found⟩ := last a (List.mem_singleton_self a)
    obtain ⟨writable, last⟩ := List.forall_mem_append.1 writable
    have calls : KernelArgument.calls mapping (arguments ++ [a]) =
        KernelArgument.calls mapping arguments ++ [a.call range] := by
      simp [KernelArgument.calls, found]
    rw [calls, BinderCall.latest_concat, KernelArgument.asks?_call, ih mapped writable,
      List.filter_append]
    by_cases names : a.Names set binding
    · have kind : range.slot.kind = slot.kind :=
        (last a (List.mem_singleton_self a) names).symm
      simp [names, kind, found]
    · simp [names]

/-! ## The binder of a launch -/

/-- A locked binder before any call. -/
theorem holds_lockedBinder (stages : List Reflection) :
    (lockedBinder stages).Holds (lockedBinder stages) [] where
  locked := by
    rw [lockedBinder_eq]
    rfl
  layouts _ := rfl
  slots set binding := by
    cases (lockedBinder stages).slot? set binding <;> rfl

variable {k : Kernel} {stages : List Reflection}

/-- The binder that a launch makes of that of the pipeline: all arguments are mapped, and each slot
has the range of the last one that names it. -/
theorem bind_eq_ok (own : k.pipeline.binder = lockedBinder stages)
    (bound : k.bind mapping = .ok d) :
    (∀ a ∈ k.arguments, Takes mapping (lockedBinder stages) a) ∧
      (∀ set, d.setLayout? set = (lockedBinder stages).setLayout? set) ∧
      ∀ set binding, d.slot? set binding = (Reflection.slot? stages set binding).map fun slot =>
        ((k.range? mapping set binding).map Range.slot).getD slot := by
  rw [bind_eq, own] at bound
  obtain ⟨holds, take⟩ := foldlM_bindArgument (holds_lockedBinder stages) bound
  refine ⟨take, holds.layouts, fun set binding => ?_⟩
  rw [holds.slots, lockedBinder_slot?, List.nil_append]
  cases held : Reflection.slot? stages set binding with
  | none => rfl
  | some slot =>
    rw [← lockedBinder_slot?] at held
    refine congrArg some (latest_calls (fun a member => (take a member).mapped) ?_)
    rintro a member ⟨rfl, rfl⟩
    exact (take a member).writable slot held

/-- The kernel without the arguments that name no slot which the stages reflect. -/
def trimmed (k : Kernel) (stages : List Reflection) : Kernel :=
  { k with
    arguments := k.arguments.filter fun a => (Reflection.slot? stages a.set a.binding).isSome }

theorem bind_trimmed (own : k.pipeline.binder = lockedBinder stages)
    (bound : k.bind mapping = .ok d) : (k.trimmed stages).bind mapping = .ok d := by
  rw [bind_eq, own] at bound
  have filtered := foldlM_bindArgument_filter (holds_lockedBinder stages) bound
  simp only [lockedBinder_slot?] at filtered
  rw [bind_eq]
  exact own ▸ filtered

end Kernel

end DeviceLayer
