import DeviceLayer.Gpu.Pipeline
import Mathlib.Data.List.Induction

/-!
# Vertex buffer slots

The slots of a raster pipeline go up to the highest binding that an input declares, and those
between are there without an input. An attribute is taken wherever there is a slot, declared or not.

* `DeclaredSlot`, `ReachedSlot`, `GapSlot` — the slots with an input, all slots, and the others.
* `slotLayout` — what the inputs and attributes of a pipeline make of a slot.
* `vertexBuffers_eq` — all slots, or what is wrong with the first attribute that is not taken.
* `vertexBuffers_exact` — which attributes are taken, and what their slots are.
-/

namespace DeviceLayer

/-- An input declares the slot. -/
def DeclaredSlot (inputs : List VertexInput) (slot : Nat) : Prop :=
  ∃ i ∈ inputs, i.binding.toNat = slot

/-- The slot is not above all that are declared. -/
def ReachedSlot (inputs : List VertexInput) (slot : Nat) : Prop :=
  ∃ i ∈ inputs, slot ≤ i.binding.toNat

/-- The slot is there because one above it is declared. -/
def GapSlot (inputs : List VertexInput) (slot : Nat) : Prop :=
  ReachedSlot inputs slot ∧ ¬DeclaredSlot inputs slot

instance (inputs : List VertexInput) (slot : Nat) : Decidable (DeclaredSlot inputs slot) :=
  inferInstanceAs (Decidable (∃ i ∈ inputs, i.binding.toNat = slot))

instance (inputs : List VertexInput) (slot : Nat) : Decidable (ReachedSlot inputs slot) :=
  inferInstanceAs (Decidable (∃ i ∈ inputs, slot ≤ i.binding.toNat))

instance (inputs : List VertexInput) (slot : Nat) : Decidable (GapSlot inputs slot) :=
  inferInstanceAs (Decidable (_ ∧ _))

theorem DeclaredSlot.reached {inputs : List VertexInput} {slot : Nat}
    (declared : DeclaredSlot inputs slot) : ReachedSlot inputs slot := by
  obtain ⟨i, member, same⟩ := declared
  exact ⟨i, member, Nat.le_of_eq same.symm⟩

/-! What an attribute becomes, and why it is not taken. -/

namespace VertexAttribute

/-- The attribute in native terms. -/
def native? (a : VertexAttribute) : Option NativeAttribute :=
  a.format.vertex?.map fun format => ⟨a.location, format, a.offset⟩

/-- Why the attribute is not taken where there are so many slots. -/
def refusal? (a : VertexAttribute) (slots : Nat) : Option Precondition :=
  if slots ≤ a.binding.toNat then some (.undeclaredVertexBinding a.location a.binding)
  else if a.format.vertex?.isNone then some (.notVertexFormat a.format)
  else none

theorem refusal?_eq_none {a : VertexAttribute} {slots : Nat} :
    a.refusal? slots = none ↔ a.binding.toNat < slots ∧ a.format.vertex?.isSome := by
  unfold refusal?
  split
  · next above => exact iff_of_false (by simp) fun h => Nat.not_lt.2 above h.1
  · next below =>
    have within : a.binding.toNat < slots := Nat.not_le.1 below
    cases a.format.vertex? <;> simp [within]

end VertexAttribute

/-- The attributes that name a slot, as they come. -/
def slotAttributes (attributes : List VertexAttribute) (slot : Nat) : List NativeAttribute :=
  (attributes.filter fun a => a.binding.toNat = slot).filterMap VertexAttribute.native?

theorem slotAttributes_cons (a : VertexAttribute) (attributes : List VertexAttribute)
    (slot : Nat) : slotAttributes (a :: attributes) slot =
      (if a.binding.toNat = slot then a.native?.toList else []) ++
        slotAttributes attributes slot := by
  unfold slotAttributes
  split
  · next same => cases native : a.native? <;> simp [same, native]
  · next other => simp [other]

/-- The last input that declares a slot. -/
def slotInput? (inputs : List VertexInput) (slot : Nat) : Option VertexInput :=
  inputs.reverse.find? fun i => i.binding.toNat = slot

/-- A slot with the stride and the step mode of the last input that declares it, and the attributes
that name it. -/
def slotLayout (inputs : List VertexInput) (attributes : List VertexAttribute) (slot : Nat) :
    VertexBufferLayout where
  stride := (slotInput? inputs slot).elim 0 (·.stride)
  perInstance := (slotInput? inputs slot).elim false (·.perInstance)
  attributes := slotAttributes attributes slot

theorem slotInput?_eq_none {inputs : List VertexInput} {slot : Nat} :
    slotInput? inputs slot = none ↔ ¬DeclaredSlot inputs slot := by
  simp [slotInput?, DeclaredSlot]

/-! Inputs. -/

/-- There are as many slots as it takes to reach the highest that is declared. -/
theorem lt_declaredSlots {inputs : List VertexInput} {slot : Nat} :
    slot < declaredSlots inputs ↔ ReachedSlot inputs slot := by
  have from_ (n : Nat) :
      slot < inputs.foldl (fun n i => max n (i.binding.toNat + 1)) n ↔
        slot < n ∨ ReachedSlot inputs slot := by
    induction inputs generalizing n with
    | nil => simp [ReachedSlot]
    | cons i inputs ih =>
      have either : ReachedSlot (i :: inputs) slot ↔
          slot ≤ i.binding.toNat ∨ ReachedSlot inputs slot := by
        simp [ReachedSlot]
      rw [List.foldl_cons, ih, either, ← or_assoc]
      exact or_congr_left (by omega)
  simpa [declaredSlots] using from_ 0

/-- Each input overwrites what the ones before it gave its slot. -/
theorem foldl_declareInput (inputs : List VertexInput) (slots : Nat) :
    inputs.foldl declareInput (List.replicate slots {}) =
      (List.range slots).map (slotLayout inputs []) := by
  induction inputs using List.reverseRecOn with
  | nil =>
    refine List.ext_getElem (by simp) fun slot _ _ => ?_
    simp [slotLayout, slotInput?, slotAttributes]
  | append_singleton inputs i ih =>
    rw [List.foldl_append, ih, List.foldl_cons, List.foldl_nil, declareInput]
    refine List.ext_getElem (by simp) fun slot _ _ => ?_
    simp only [List.getElem_modify, List.getElem_map, List.getElem_range, slotLayout, slotInput?,
      List.reverse_append, List.reverse_singleton, List.singleton_append, List.find?_cons]
    split
    · next same => simp [same]
    · next other => simp [other]

/-! Attributes. -/

theorem addAttribute_eq (slots : List VertexBufferLayout) (a : VertexAttribute) :
    addAttribute slots a =
      match a.refusal? slots.length with
      | some cause => .error (.precondition cause)
      | none => .ok (slots.modify a.binding.toNat fun s =>
          { s with attributes := s.attributes ++ a.native?.toList }) := by
  unfold addAttribute VertexAttribute.refusal? VertexAttribute.native?
  split
  · rfl
  · cases a.format.vertex? <;> rfl

/-- The first attribute that is not taken ends it; else each is behind those of its slot. -/
theorem foldlM_addAttribute (attributes : List VertexAttribute) (slots : List VertexBufferLayout) :
    attributes.foldlM addAttribute slots =
      match attributes.findSome? (·.refusal? slots.length) with
      | some cause => .error (.precondition cause)
      | none => .ok (slots.mapIdx fun k s =>
          { s with attributes := s.attributes ++ slotAttributes attributes k }) := by
  induction attributes generalizing slots with
  | nil =>
    refine congrArg Except.ok (List.ext_getElem (by simp) fun k _ _ => ?_)
    simp [slotAttributes]
  | cons a attributes ih =>
    rw [List.foldlM_cons, addAttribute_eq, List.findSome?_cons]
    cases a.refusal? slots.length with
    | some cause => rfl
    | none =>
      simp only [bind, Except.bind, ih, List.length_modify]
      cases attributes.findSome? (·.refusal? slots.length) with
      | some cause => rfl
      | none =>
        refine congrArg _ (List.ext_getElem (by simp) fun k _ _ => ?_)
        simp only [List.getElem_mapIdx, List.getElem_modify, slotAttributes_cons]
        split <;> simp

/-- All slots of a request, or what is wrong with the first attribute that is not taken. -/
theorem vertexBuffers_eq (inputs : List VertexInput) (attributes : List VertexAttribute) :
    vertexBuffers inputs attributes =
      match attributes.findSome? (·.refusal? (declaredSlots inputs)) with
      | some cause => .error (.precondition cause)
      | none => .ok ((List.range (declaredSlots inputs)).map (slotLayout inputs attributes)) := by
  rw [vertexBuffers, foldl_declareInput, foldlM_addAttribute, List.length_map, List.length_range]
  cases attributes.findSome? (·.refusal? (declaredSlots inputs)) with
  | some cause => rfl
  | none =>
    refine congrArg _ (List.ext_getElem (by simp) fun k _ _ => ?_)
    simp only [List.getElem_mapIdx, List.getElem_map, List.getElem_range, slotLayout]
    simp [slotAttributes]

/-- An attribute that can be taken: it names a slot, declared or not, and its format is one of
vertex attributes. -/
structure VertexAttribute.Takable (inputs : List VertexInput) (a : VertexAttribute) : Prop where
  reached : ReachedSlot inputs a.binding.toNat
  native : a.format.vertex?.isSome

theorem VertexAttribute.takable_iff {inputs : List VertexInput} {a : VertexAttribute} :
    a.Takable inputs ↔ a.refusal? (declaredSlots inputs) = none := by
  rw [refusal?_eq_none, lt_declaredSlots]
  exact ⟨fun h => ⟨h.reached, h.native⟩, fun h => ⟨h.1, h.2⟩⟩

theorem vertexBuffers_eq_ok_iff {inputs : List VertexInput} {attributes : List VertexAttribute}
    {slots : List VertexBufferLayout} :
    vertexBuffers inputs attributes = .ok slots ↔
      (∀ a ∈ attributes, a.Takable inputs) ∧
        slots = (List.range (declaredSlots inputs)).map (slotLayout inputs attributes) := by
  simp only [VertexAttribute.takable_iff, ← List.findSome?_eq_none_iff, vertexBuffers_eq]
  cases attributes.findSome? (·.refusal? (declaredSlots inputs)) <;> simp [eq_comm]

variable {inputs : List VertexInput} {attributes : List VertexAttribute}

theorem vertexBuffers_taken_iff :
    (∃ slots, vertexBuffers inputs attributes = .ok slots) ↔
      ∀ a ∈ attributes, a.Takable inputs := by
  simp only [vertexBuffers_eq_ok_iff, exists_and_left, exists_eq, and_true]

theorem getElem?_vertexBuffers {slots : List VertexBufferLayout}
    (made : vertexBuffers inputs attributes = .ok slots) (k : Nat) :
    slots[k]? =
      if ReachedSlot inputs k then some (slotLayout inputs attributes k) else none := by
  obtain ⟨-, rfl⟩ := vertexBuffers_eq_ok_iff.1 made
  simp only [List.getElem?_map, ← lt_declaredSlots]
  split
  · next within => simp [List.getElem?_range within]
  · next beyond => simpa using beyond

theorem slotLayout_of_gap {k : Nat} (gap : GapSlot inputs k) :
    slotLayout inputs attributes k = { attributes := slotAttributes attributes k } := by
  simp [slotLayout, slotInput?_eq_none.2 gap.2]

/-- An attribute that can be taken names a declared slot or a gap. -/
theorem VertexAttribute.Takable.declared_iff {a : VertexAttribute} (takable : a.Takable inputs) :
    DeclaredSlot inputs a.binding.toNat ↔ ¬GapSlot inputs a.binding.toNat := by
  constructor
  · intro declared gap
    exact gap.2 declared
  · intro noGap
    by_contra undeclared
    exact noGap ⟨takable.reached, undeclared⟩

/-- Only declared slots are named exactly where nothing that is taken names a gap. -/
theorem vertexBuffers_lawful_iff :
    ((∃ slots, vertexBuffers inputs attributes = .ok slots) ↔
        ∀ a ∈ attributes, DeclaredSlot inputs a.binding.toNat ∧ a.format.vertex?.isSome) ↔
      ((∃ slots, vertexBuffers inputs attributes = .ok slots) →
        ∀ a ∈ attributes, ¬GapSlot inputs a.binding.toNat) := by
  rw [vertexBuffers_taken_iff]
  constructor
  · intro lawful all a member
    exact (all a member).declared_iff.1 (lawful.1 all a member).1
  · intro noGap
    constructor
    · intro all a member
      exact ⟨(all a member).declared_iff.2 (noGap all a member), (all a member).native⟩
    · intro all a member
      exact ⟨(all a member).1.reached, (all a member).2⟩

theorem vertexBuffers_error {e : DeviceError}
    (failed : vertexBuffers inputs attributes = .error e) :
    ∃ sooner a later cause, attributes = sooner ++ a :: later ∧ (∀ b ∈ sooner, b.Takable inputs) ∧
      a.refusal? (declaredSlots inputs) = some cause ∧ e = .precondition cause := by
  rw [vertexBuffers_eq] at failed
  cases first : attributes.findSome? (·.refusal? (declaredSlots inputs)) with
  | none => simp [first] at failed
  | some cause =>
    obtain ⟨sooner, a, later, split, refused, before⟩ := List.findSome?_eq_some_iff.1 first
    simp only [first, Except.error.injEq] at failed
    have takable : ∀ b ∈ sooner, b.Takable inputs := fun b member =>
      VertexAttribute.takable_iff.2 (before b member)
    exact ⟨sooner, a, later, cause, split, takable, refused, failed.symm⟩

/-- Attributes are taken exactly if each names a slot that is there and has a vertex format, so one
that names a gap is taken too: only declared slots are named where nothing that is taken names a
gap. The slots are then those up to the highest that is declared, each with the stride and the step
mode of the last input for it, or with the defaults in a gap, and with the attributes that name it
in their order. Otherwise the first attribute that cannot be taken is to blame. -/
theorem vertexBuffers_exact (inputs : List VertexInput) (attributes : List VertexAttribute) :
    ((∃ slots, vertexBuffers inputs attributes = .ok slots) ↔
      ∀ a ∈ attributes, ReachedSlot inputs a.binding.toNat ∧ a.format.vertex?.isSome) ∧
    (((∃ slots, vertexBuffers inputs attributes = .ok slots) ↔
        ∀ a ∈ attributes, DeclaredSlot inputs a.binding.toNat ∧ a.format.vertex?.isSome) ↔
      ((∃ slots, vertexBuffers inputs attributes = .ok slots) →
        ∀ a ∈ attributes, ¬GapSlot inputs a.binding.toNat)) ∧
    (∀ slots, vertexBuffers inputs attributes = .ok slots → ∀ k,
      slots[k]? = if ReachedSlot inputs k then some (slotLayout inputs attributes k) else none) ∧
    (∀ k, GapSlot inputs k →
      slotLayout inputs attributes k = { attributes := slotAttributes attributes k }) ∧
    (∀ e, vertexBuffers inputs attributes = .error e → ∃ sooner a later cause,
      attributes = sooner ++ a :: later ∧ (∀ b ∈ sooner, b.Takable inputs) ∧
        a.refusal? (declaredSlots inputs) = some cause ∧ e = .precondition cause) := by
  have taken : (∀ a ∈ attributes, a.Takable inputs) ↔
      ∀ a ∈ attributes, ReachedSlot inputs a.binding.toNat ∧ a.format.vertex?.isSome :=
    forall₂_congr fun a _ => ⟨fun h => ⟨h.reached, h.native⟩, fun h => ⟨h.1, h.2⟩⟩
  exact ⟨vertexBuffers_taken_iff.trans taken, vertexBuffers_lawful_iff,
    fun _ made => getElem?_vertexBuffers made, fun _ gap => slotLayout_of_gap gap,
    fun _ failed => vertexBuffers_error failed⟩

/-- Slot 1 is there only because slot 2 is declared, and an attribute that names it is taken. -/
theorem gap_attribute_taken :
    let inputs : List VertexInput := [⟨0, 12, false⟩, ⟨2, 16, true⟩]
    let a : VertexAttribute := ⟨0, 1, .r32f, 0⟩
    ¬DeclaredSlot inputs a.binding.toNat ∧
      vertexBuffers inputs [a] =
        .ok [⟨12, false, []⟩, ⟨0, false, [⟨0, .float32, 0⟩]⟩, ⟨16, true, []⟩] := by
  decide

end DeviceLayer
