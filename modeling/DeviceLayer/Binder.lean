import DeviceLayer.Action
import DeviceLayer.SetLayout

/-!
# Resource binders

A binder says which memory a pipeline's slots see. It starts open: binding a slot makes it. Once
its layout is locked the set of slots and their kinds are fixed:

* a known slot takes a new pointer and size of its own kind,
* a known slot refuses another kind (a failed assertion),
* an unknown slot is left out, as binders are shared between pipelines with different slots.

Main definitions: `BindingSet.layout`, `Binder.bind`, `Binder.descriptorWrites`.
-/

namespace DeviceLayer

/-- What one slot is bound to. -/
structure Binding where
  kind : ResourceKind
  pointer : Pointer
  size : UInt64
  deriving DecidableEq

/-- The slots of one descriptor set by binding number. -/
abbrev BindingSet := SortedMap UInt32 Binding

/-- The kinds of a set's slots. -/
def BindingSet.layout (s : BindingSet) : SetLayout := s.mapValues (·.kind)

theorem BindingSet.get?_layout (s : BindingSet) (q : UInt32) :
    (layout s).get? q = (s.get? q).map (·.kind) :=
  SortedMap.get?_mapValues s _ q

/-- One slot to be written into a descriptor set. -/
structure DescriptorWrite where
  binding : UInt32
  slot : Binding
  deriving DecidableEq

/-- What a pipeline's slots, vertex buffers and index buffer are bound to. -/
structure Binder where
  sets : SortedMap UInt32 BindingSet := ∅
  locked : Bool := false
  vertexBuffers : SortedMap UInt32 Pointer := ∅
  indexBuffer : Option (Pointer × IndexFormat) := none

namespace Binder

/-- The slot at a set and binding number. -/
def slot? (b : Binder) (set binding : UInt32) : Option Binding :=
  (b.sets.get? set).bind (·.get? binding)

/-- Puts a slot into its set, making the set if need be. -/
def putSlot (b : Binder) (set binding : UInt32) (slot : Binding) : Binder :=
  let slots := ((b.sets.get? set).getD ∅).insert binding slot
  { b with sets := b.sets.insert set slots }

/-- Binds a slot, by the rules of an open or a locked binder. -/
def bind (b : Binder) (set binding : UInt32) (kind : ResourceKind) (pointer : Pointer)
    (size : UInt64) : Except Fault Binder :=
  if b.locked then
    match b.slot? set binding with
    | none => .ok b
    | some slot =>
      if slot.kind = kind then .ok (b.putSlot set binding ⟨kind, pointer, size⟩)
      else .error (.assertion (.slotLocked set binding slot.kind kind))
  else .ok (b.putSlot set binding ⟨kind, pointer, size⟩)

/-- `bind` as a change of the binder at hand; a refused bind changes nothing. -/
def bindSlot (group binding : UInt32) (kind : ResourceKind) (pointer : Pointer) (size : UInt64) :
    Action Binder Unit := do
  let bound ← Action.check ((← get).bind group binding kind pointer size)
  set bound

def vertexBuffer (b : Binder) (pointer : Pointer) (binding : UInt32) : Binder :=
  { b with vertexBuffers := b.vertexBuffers.insert binding pointer }

def withIndexBuffer (b : Binder) (pointer : Pointer) (format : IndexFormat) : Binder :=
  { b with indexBuffer := some (pointer, format) }

/-- Fixes the slots and their kinds. -/
def lock (b : Binder) : Binder := { b with locked := true }

/-- The kinds of one set's slots, if the binder has the set. -/
def setLayout? (b : Binder) (set : UInt32) : Option SetLayout := (b.sets.get? set).map (·.layout)

/-- The slots of a set that hold something, by ascending binding number. -/
def descriptorWrites (b : Binder) (set : UInt32) : List DescriptorWrite :=
  (((b.sets.get? set).getD ∅).toList.filter fun e => !e.2.pointer.isNull).map fun e => ⟨e.1, e.2⟩

theorem slot?_putSlot (b : Binder) (set binding set' binding' : UInt32) (slot : Binding) :
    (b.putSlot set binding slot).slot? set' binding' =
      if set' = set ∧ binding' = binding then some slot else b.slot? set' binding' := by
  simp only [slot?, putSlot]
  by_cases hs : set' = set
  · subst hs
    rw [SortedMap.get?_insert_self]
    by_cases hb : binding' = binding
    · subst hb
      simp
    · cases h : b.sets.get? set' <;>
        simp [hb, SortedMap.get?_insert_of_ne _ _ hb]
  · rw [SortedMap.get?_insert_of_ne _ _ hs]
    simp [hs]

end Binder

end DeviceLayer
