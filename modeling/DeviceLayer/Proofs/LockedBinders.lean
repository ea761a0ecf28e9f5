import DeviceLayer.Proofs.Actions
import DeviceLayer.Session.Binders

/-!
# Locked binders

Pipelines, layout caches and descriptor writes rely on a locked binder: its slots and their kinds
stay what they were, whatever is bound later, and only the memory that they see moves on.

* `BinderCall` — the calls that bind something, each answered for itself: one that fails ends
  nothing.
* `BinderCall.latest` — what a slot holds after calls: what the last one asked for that named it
  with its kind.
* `Binder.locked_calls` — a locked binder after any calls.
-/

namespace DeviceLayer

/-- A call that binds something. A slot takes a buffer of any of the three kinds, from a pointer on
or as a whole. -/
inductive BinderCall where
  | bind (set binding : UInt32) (kind : ResourceKind) (pointer : Pointer) (extent : BindExtent)
  | vertexBuffer (pointer : Pointer) (binding : UInt32)
  | indexBuffer (pointer : Pointer) (format : IndexFormat)

namespace BinderCall

/-- The slot as `bind` is to leave it. -/
def binding (kind : ResourceKind) (pointer : Pointer) (extent : BindExtent) : Binding :=
  ⟨kind, (extent.resolve pointer).1, (extent.resolve pointer).2⟩

def run : BinderCall → Action Binder Unit
  | .bind set number kind pointer extent =>
    let (start, size) := extent.resolve pointer
    Binder.bindSlot set number kind start size
  | .vertexBuffer pointer number => modify (·.vertexBuffer pointer number)
  | .indexBuffer pointer format => modify (·.withIndexBuffer pointer format)

/-- What the call asks for at a slot, if it names that slot. -/
def asks? (set number : UInt32) : BinderCall → Option Binding
  | .bind s n kind pointer extent =>
    if set = s ∧ number = n then some (binding kind pointer extent) else none
  | _ => none

/-- What the last of the calls asked for that named the slot with its kind, else what the slot
held before them. -/
def latest (calls : List BinderCall) (set binding : UInt32) (slot : Binding) : Binding :=
  ((calls.filterMap (asks? set binding)).filter (·.kind = slot.kind)).getLast?.getD slot

theorem latest_kind (calls : List BinderCall) (set binding : UInt32) (slot : Binding) :
    (latest calls set binding slot).kind = slot.kind := by
  rw [latest]
  cases last : ((calls.filterMap (asks? set binding)).filter (·.kind = slot.kind)).getLast? with
  | none => rfl
  | some asked =>
    have mem := List.mem_of_getLast? last
    simpa using (List.mem_filter.1 mem).2

/-- One more call counts if it names the slot with its kind. -/
theorem latest_concat (calls : List BinderCall) (call : BinderCall) (set binding : UInt32)
    (slot : Binding) :
    latest (calls ++ [call]) set binding slot =
      match call.asks? set binding with
      | some asked => if asked.kind = slot.kind then asked else latest calls set binding slot
      | none => latest calls set binding slot := by
  simp only [latest, List.filterMap_append, List.filter_append]
  cases named : call.asks? set binding with
  | none => simp [named]
  | some asked =>
    by_cases same : asked.kind = slot.kind <;> simp [named, same]

end BinderCall

namespace Binder

/-! ## One call -/

theorem bindSlot_outcome (b : Binder) (set binding : UInt32) (kind : ResourceKind) (p : Pointer)
    (size : UInt64) :
    (bindSlot set binding kind p size).outcome b =
      match b.bind set binding kind p size with
      | .ok bound => (.ok (), bound)
      | .error e => (.error e, b) := by
  refine Action.wp.outcome (P := fun o => o = _) ?_
  simp only [bindSlot, Action.wp_bind, Action.wp_get, Action.wp_check, Action.wp_set]
  constructor
  · intro bound answer
    rw [answer]
  · intro e answer
    rw [answer]

/-- What a locked binder makes of a call that asks for a slot: nothing if it has no such slot, a
failed assertion if the slot is of another kind, and else the slot is as asked. -/
theorem run_asking {b : Binder} {call : BinderCall} {set number : UInt32} {asked : Binding}
    (locked : b.locked = true) (asks : call.asks? set number = some asked) :
    call.run.outcome b =
      match b.slot? set number with
      | none => (.ok (), b)
      | some slot =>
        if slot.kind = asked.kind then (.ok (), b.putSlot set number asked)
        else (.error (.assertion (.slotLocked set number slot.kind asked.kind)), b) := by
  cases call with
  | bind s n kind p extent =>
    obtain ⟨⟨rfl, rfl⟩, named⟩ := Option.ite_none_right_eq_some.1 asks
    obtain rfl := Option.some.inj named
    change (bindSlot set number kind (extent.resolve p).1 (extent.resolve p).2).outcome b = _
    rw [bindSlot_outcome, bind, if_pos locked]
    cases b.slot? set number with
    | none => rfl
    | some slot => by_cases same : slot.kind = kind <;> simp [BinderCall.binding, same]
  | vertexBuffer => cases asks
  | indexBuffer => cases asks

/-- A slot that keeps its kind leaves all layouts. -/
theorem setLayout?_putSlot {b : Binder} {set binding : UInt32} {slot new : Binding}
    (known : b.slot? set binding = some slot) (same : slot.kind = new.kind) (set' : UInt32) :
    (b.putSlot set binding new).setLayout? set' = b.setLayout? set' := by
  obtain ⟨slots, found, entry⟩ := Option.bind_eq_some_iff.1 known
  simp only [setLayout?, putSlot, found, Option.getD_some]
  by_cases here : set' = set
  · subst here
    rw [SortedMap.get?_insert_self, found]
    have kept : (BindingSet.layout slots).get? binding = some new.kind := by
      rw [BindingSet.get?_layout, entry, ← same]
      rfl
    simp only [Option.map_some, BindingSet.layout, SortedMap.mapValues_insert]
    exact congrArg some (SortedMap.insert_eq_self kept)
  · rw [SortedMap.get?_insert_of_ne _ _ here]

/-! ## Any calls -/

/-- The binder after calls made one after the other; a call that fails ends nothing. -/
def after (b : Binder) (calls : List BinderCall) : Binder :=
  calls.foldl (fun b call => (call.run.outcome b).2) b

/-- A locked binder `c` that had the slots of `b` when it was locked and was called since. -/
structure Holds (b c : Binder) (calls : List BinderCall) : Prop where
  locked : c.locked = true
  layouts : ∀ set, c.setLayout? set = b.setLayout? set
  slots : ∀ set binding,
    c.slot? set binding = (b.slot? set binding).map (BinderCall.latest calls set binding)

theorem Holds.lock (b : Binder) : Holds b b.lock [] where
  locked := rfl
  layouts _ := rfl
  slots set binding := by
    change b.slot? set binding = _
    cases b.slot? set binding <;> rfl

/-- A call that asks for nothing that the slots can take counts for nothing. -/
theorem Holds.idle {b c : Binder} {calls : List BinderCall} (holds : Holds b c calls)
    {call : BinderCall} (nothing : ∀ set number slot asked, c.slot? set number = some slot →
      call.asks? set number = some asked → asked.kind ≠ slot.kind) :
    Holds b c (calls ++ [call]) where
  locked := holds.locked
  layouts := holds.layouts
  slots set number := by
    rw [holds.slots]
    cases had : b.slot? set number with
    | none => rfl
    | some slot =>
      have has := holds.slots set number
      rw [had, Option.map_some] at has
      rw [Option.map_some, Option.map_some, BinderCall.latest_concat]
      cases asks : call.asks? set number with
      | none => rfl
      | some asked =>
        have other := nothing set number _ asked has asks
        rw [BinderCall.latest_kind] at other
        simp only [if_neg other]

/-- A call that a slot can take moves that slot on and no other. -/
theorem Holds.put {b c : Binder} {calls : List BinderCall} (holds : Holds b c calls) {s n : UInt32}
    {kind : ResourceKind} {p : Pointer} {extent : BindExtent} {slot : Binding}
    (known : c.slot? s n = some slot) (same : slot.kind = kind) :
    Holds b (c.putSlot s n (BinderCall.binding kind p extent))
      (calls ++ [.bind s n kind p extent]) where
  locked := holds.locked
  layouts set := by rw [setLayout?_putSlot known same, holds.layouts]
  slots set number := by
    rw [slot?_putSlot]
    have has := holds.slots set number
    by_cases here : set = s ∧ number = n
    · obtain ⟨rfl, rfl⟩ := here
      rw [known] at has
      obtain ⟨first, had, rfl⟩ := Option.map_eq_some_iff.1 has.symm
      rw [BinderCall.latest_kind] at same
      simp [had, BinderCall.latest_concat, BinderCall.asks?, BinderCall.binding, same]
    · rw [if_neg here, has]
      cases b.slot? set number <;> simp [BinderCall.latest_concat, BinderCall.asks?, here]

theorem Holds.step {b c : Binder} {calls : List BinderCall} (holds : Holds b c calls)
    (call : BinderCall) : Holds b (call.run.outcome c).2 (calls ++ [call]) := by
  cases call with
  | bind s n kind p extent =>
    have asks : (BinderCall.bind s n kind p extent).asks? s n =
        some (BinderCall.binding kind p extent) := if_pos ⟨rfl, rfl⟩
    rw [run_asking holds.locked asks, BinderCall.binding]
    cases known : c.slot? s n with
    | none =>
      refine holds.idle fun set number slot asked has asks => ?_
      obtain ⟨⟨rfl, rfl⟩, -⟩ := Option.ite_none_right_eq_some.1 asks
      rw [known] at has
      cases has
    | some slot =>
      by_cases same : slot.kind = kind
      · simp only [if_pos same]
        exact holds.put known same
      · simp only [if_neg same]
        refine holds.idle fun set number slot' asked has asks => ?_
        obtain ⟨⟨rfl, rfl⟩, named⟩ := Option.ite_none_right_eq_some.1 asks
        obtain rfl := Option.some.inj named
        obtain rfl := Option.some.inj (known.symm.trans has)
        exact Ne.symm same
  | vertexBuffer p n =>
    have kept : Holds b c (calls ++ [.vertexBuffer p n]) := holds.idle nofun
    exact ⟨kept.locked, kept.layouts, kept.slots⟩
  | indexBuffer p format =>
    have kept : Holds b c (calls ++ [.indexBuffer p format]) := holds.idle nofun
    exact ⟨kept.locked, kept.layouts, kept.slots⟩

theorem Holds.run {b c : Binder} {calls : List BinderCall} (holds : Holds b c calls)
    (more : List BinderCall) : Holds b (c.after more) (calls ++ more) := by
  induction more generalizing c calls with
  | nil => rwa [List.append_nil]
  | cons call more ih =>
    rw [← List.singleton_append, ← List.append_assoc]
    exact ih (holds.step call)

/-! ## Descriptor writes -/

/-- The entries of a set whose slots moved on, each by its number. -/
theorem toList_moved {m n : BindingSet} (f : UInt32 → Binding → Binding)
    (h : ∀ q, n.get? q = (m.get? q).map (f q)) :
    n.toList = m.toList.map fun e => (e.1, f e.1 e.2) := by
  refine SortedMap.entries_eq_of_find?_eq n.sorted ?_ fun q => ?_
  · rw [List.pairwise_map]
    exact m.sorted
  · refine (h q).trans ?_
    unfold SortedMap.get? SortedMap.toList
    induction m.entries with
    | nil => rfl
    | cons e rest ih =>
      obtain ⟨k, v⟩ := e
      simp only [SortedMap.find?, List.map_cons]
      split
      · rename_i same
        rw [Ranked.rank_inj same]
        rfl
      · exact ih

theorem descriptorWrites_ascending (b : Binder) (set : UInt32) :
    (b.descriptorWrites set).Pairwise (·.binding < ·.binding) := by
  rw [descriptorWrites, List.pairwise_map]
  refine (((b.sets.get? set).getD ∅).sorted.imp fun {e e'} before => ?_).filter _
  exact UInt32.lt_iff_toNat_lt.2 (Int.ofNat_lt.1 before)

/-- The slots that a set of the binder has, by ascending number. -/
def slots (b : Binder) (set : UInt32) : List (UInt32 × Binding) :=
  ((b.sets.get? set).getD ∅).toList

theorem Holds.slots_eq {b c : Binder} {calls : List BinderCall} (holds : Holds b c calls)
    (set : UInt32) :
    c.slots set = (b.slots set).map fun e => (e.1, BinderCall.latest calls set e.1 e.2) := by
  refine toList_moved (BinderCall.latest calls set) fun number => ?_
  have slot (d : Binder) : ((d.sets.get? set).getD ∅).get? number = d.slot? set number := by
    rw [slot?]
    cases d.sets.get? set <;> rfl
  rw [slot, slot, holds.slots]

/-- A binder that is locked and then called any number of times, failed calls included, keeps its
slots and their kinds. Each slot has the memory that the last call gave it that named it with its
kind, and a set's descriptor writes are its slots with memory so determined, in ascending order.
At every moment a call that names no slot of the binder is dropped, and one with another kind than
the slot's fails its assertion; neither changes anything. -/
theorem locked_calls (b : Binder) (calls : List BinderCall) :
    (b.lock.after calls).locked = true ∧
      (∀ set, (b.lock.after calls).setLayout? set = b.setLayout? set) ∧
      (∀ set number, (b.lock.after calls).slot? set number =
        (b.slot? set number).map (BinderCall.latest calls set number)) ∧
      (∀ set, (b.lock.after calls).descriptorWrites set =
        ((b.slots set).map fun e => ⟨e.1, BinderCall.latest calls set e.1 e.2⟩).filter
          fun write => !write.slot.pointer.isNull) ∧
      (∀ set, ((b.lock.after calls).descriptorWrites set).Pairwise (·.binding < ·.binding)) ∧
      ∀ call set number asked, BinderCall.asks? set number call = some asked →
        match b.slot? set number with
        | none => call.run.outcome (b.lock.after calls) = (.ok (), b.lock.after calls)
        | some slot =>
          if slot.kind = asked.kind then (call.run.outcome (b.lock.after calls)).1 = .ok ()
          else call.run.outcome (b.lock.after calls) =
            (.error (.assertion (.slotLocked set number slot.kind asked.kind)),
              b.lock.after calls) := by
  have holds : Holds b (b.lock.after calls) calls := (Holds.lock b).run calls
  refine ⟨holds.locked, holds.layouts, holds.slots, fun set => ?_,
    descriptorWrites_ascending _, fun call set number asked asks => ?_⟩
  · have moved := holds.slots_eq set
    rw [slots] at moved
    rw [descriptorWrites, moved, List.filter_map, List.filter_map, List.map_map]
    rfl
  · rw [run_asking holds.locked asks, holds.slots]
    cases b.slot? set number with
    | none => rfl
    | some slot =>
      simp only [Option.map_some, BinderCall.latest_kind]
      by_cases same : slot.kind = asked.kind <;> simp [same]

end Binder

end DeviceLayer
