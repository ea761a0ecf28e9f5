import DeviceLayer.Proofs.BoundWindows
import DeviceLayer.Proofs.Failures
import DeviceLayer.Proofs.MinimumSizes

/-!
# Sizes that there is no placeholder of

Binding resources computes with sizes that callers chose. Where a slot holds memory this goes well,
since what is bound lies in an allocation, and no allocation ends where a word does. Where a slot is
empty its size is rounded up to whole groups of bytes just as it is, and a placeholder is asked for
that is as long. A size in the last group of the word cannot be rounded up: a whole allocation asks
for such a size. And the graphics library makes no placeholder past the limit of the device, and
does not return.

* `Action.FaultsWith` — an action ends well or is refused, unless it ends in one certain fault.
* `Gpu.placeholderFault` — why there is no placeholder of a size.
* `Binder.emptySizes` — the sizes that empty slots ask for.
* `Gpu.faultsWith_bindSlot`, `Recording.faultsWith_bindSets` — a slot, and all sets of a pipeline.
* `Client.binding_overflows` — when binding resources panics.
* `Client.empty_whole_overflows` — a slot that is a whole of nothing.
-/

namespace DeviceLayer

open DeviceLayer.Action

/-- A refusal: an error of the device, or a bind group that the graphics library has something
against. -/
inductive Fault.Refuses (defect : BindWindows → Option String) : Fault → Prop where
  | device (error : DeviceError) : Refuses defect (.device error)
  | group {windows : BindWindows} {words : String} (found : defect windows = some words) :
    Refuses defect (.native (.bindGroup words))

namespace Action

variable {σ α β : Type} {I : σ → Prop} {may : Fault → Prop} {f g : Option Fault}

/-- In states with `I` the action ends well and leaves `I`, or in a fault that it may end in,
unless it is to end in the fault `f`. If it is, it does not end well. -/
def FaultsWith (I : σ → Prop) (may : Fault → Prop) (f : Option Fault) (a : Action σ α) : Prop :=
  ∀ s, I s → a.wp (fun _ t => I t ∧ f = none) (fun e _ => may e ∨ f = some e) s

namespace FaultsWith

theorem congr {a : Action σ α} (h : FaultsWith I may f a) (same : f = g) : FaultsWith I may g a :=
  same ▸ h

theorem pure (x : α) : FaultsWith I may none (Pure.pure x : Action σ α) :=
  fun _ holds => ⟨holds, rfl⟩

theorem bind {a : Action σ β} {next : β → Action σ α} (first : FaultsWith I may f a)
    (second : ∀ x, FaultsWith I may g (next x)) : FaultsWith I may (f.or g) (a >>= next) := by
  refine fun s holds => (wp_bind a next).2 ((first s holds).mono ?_ ?_)
  · rintro x t ⟨still, rfl⟩
    exact second x t still
  · rintro e _ (fine | rfl)
    · exact .inl fine
    · exact .inr rfl

/-- What comes before and ends in no fault of its own does not count. -/
theorem after {a : Action σ β} {next : β → Action σ α} (first : FaultsWith I may none a)
    (second : ∀ x, FaultsWith I may f (next x)) : FaultsWith I may f (a >>= next) :=
  first.bind second

/-- What comes after does not either. -/
theorem before {a : Action σ β} {next : β → Action σ α} (first : FaultsWith I may f a)
    (second : ∀ x, FaultsWith I may none (next x)) : FaultsWith I may f (a >>= next) :=
  (first.bind second).congr Option.or_none

theorem findSome?_cons (faults : β → Option Fault) (x : β) (xs : List β) :
    (x :: xs).findSome? faults = (faults x).or (xs.findSome? faults) := by
  rw [List.findSome?_cons]
  cases faults x <;> rfl

theorem mapM {faults : β → Option Fault} {each : β → Action σ α}
    (h : ∀ x, FaultsWith I may (faults x) (each x)) (xs : List β) :
    FaultsWith I may (xs.findSome? faults) (xs.mapM each) := by
  induction xs with
  | nil => exact pure []
  | cons x xs ih =>
    rw [List.mapM_cons, findSome?_cons]
    exact (h x).bind fun y => ih.before fun ys => pure (y :: ys)

theorem forM {faults : β → Option Fault} {each : β → Action σ PUnit} {xs : List β}
    (h : ∀ x ∈ xs, FaultsWith I may (faults x) (each x)) :
    FaultsWith I may (xs.findSome? faults) (xs.forM each) := by
  induction xs with
  | nil => exact pure _
  | cons x xs ih =>
    obtain ⟨first, rest⟩ := List.forall_mem_cons.1 h
    rw [findSome?_cons]
    exact first.bind fun _ => ih rest

theorem forM_none {each : β → Action σ PUnit} {xs : List β}
    (h : ∀ x ∈ xs, FaultsWith I may none (each x)) : FaultsWith I may none (xs.forM each) :=
  (forM h).congr (List.findSome?_eq_none_iff.2 fun _ _ => rfl)

end FaultsWith

end Action

/-! ## Sizes -/

/-- The size is in the last group of the word, so that it cannot be rounded up. -/
def LastGroup (size : Nat) : Prop := maxWord + 1 < size + copyAlignment

instance (size : Nat) : Decidable (LastGroup size) := inferInstanceAs (Decidable (_ < _))

theorem alignUp_eq_ite (size : Nat) :
    alignUp size =
      if LastGroup size then .error (.assertion (.overflow .multiply))
      else .ok (roundUp copyAlignment size) := by
  by_cases last : LastGroup size
  · rw [if_pos last]
    rw [LastGroup] at last
    have above : ¬(size + (copyAlignment - 1)) / copyAlignment * copyAlignment ≤ maxWord := by
      simp only [copyAlignment, maxWord, UInt64.size] at *
      omega
    rw [alignUp, mulWords, if_neg above]
  · rw [if_neg last]
    exact alignUp_of_le (Nat.le_of_not_lt last)

namespace Binder

/-- The size of a slot that holds no memory; one that is missing has none. -/
def emptySize? (b : Binder) (set binding : UInt32) : Option Nat :=
  match b.slot? set binding with
  | none => some 0
  | some slot => if slot.pointer.isNull then some slot.size.toNat else none

/-- The sizes of the slots of a pipeline that hold no memory in the binder, in order. -/
def emptySizes (b : Binder) (sets : List (CacheHandle × SetLayout)) : List Nat :=
  sets.zipIdx.flatMap fun set =>
    set.1.2.toList.filterMap fun slot => b.emptySize? (UInt32.ofNat set.2) slot.1

theorem emptySize?_of_filter_eq_none {b : Binder} {set binding : UInt32}
    (empty : (b.slot? set binding).filter (fun slot => !slot.pointer.isNull) = none) :
    b.emptySize? set binding = some (((b.slot? set binding).map (·.size.toNat)).getD 0) := by
  unfold emptySize?
  cases held : b.slot? set binding with
  | none => rfl
  | some slot =>
    rw [held, Option.filter_some] at empty
    cases null : slot.pointer.isNull with
    | true => simp [null]
    | false => simp [null] at empty

theorem emptySize?_of_filter_eq_some {b : Binder} {set binding : UInt32} {slot : Binding}
    (kept : (b.slot? set binding).filter (fun slot => !slot.pointer.isNull) = some slot) :
    b.emptySize? set binding = none := by
  obtain ⟨held, notNull⟩ := Option.filter_eq_some_iff.1 kept
  simp only [Bool.not_eq_true'] at notNull
  simp [emptySize?, held, notNull]

/-- Each set in turn, and each slot of it in turn, is asked for its fault. -/
theorem findSome?_emptySizes (b : Binder) (sets : List (CacheHandle × SetLayout))
    (faults : Nat → Option Fault) :
    (b.emptySizes sets).findSome? faults = sets.zipIdx.findSome? fun set =>
      set.1.2.toList.findSome? fun slot =>
        (b.emptySize? (UInt32.ofNat set.2) slot.1).bind faults := by
  rw [← List.head?_filterMap, emptySizes, List.filterMap_flatMap, List.head?_flatMap]
  simp only [List.filterMap_filterMap, List.head?_filterMap]

end Binder

namespace Gpu

variable {s₀ s t : Live Gpu} {f : Option Fault}

/-! ## Placeholders -/

/-- The length of the longest placeholder that the device can come to have: that it has, or that
the library makes. -/
def longestPlaceholder (s : Live Gpu) : Nat :=
  max (s.platform.bufferSize s.device.placeholder) s.device.limits.maxBufferSize.toNat

/-- Why there is no placeholder with so many bytes. -/
def placeholderFault (s : Live Gpu) (size : Nat) : Option Fault :=
  if LastGroup size then some (.assertion (.overflow .multiply))
  else if longestPlaceholder s < placeholderLength size then
    some (.native (.buffer BufferPurpose.placeholder.label (placeholderLength size)
      s.device.limits.maxBufferSize))
  else none

/-- What decides which placeholders and bind groups there can be stays, and the placeholder is one
still. -/
structure Steady (s t : Live Gpu) : Prop extends Pads s t where
  defects : t.platform.script.groupDefect = s.platform.script.groupDefect
  limits : t.device.limits = s.device.limits
  longest : Padded s → longestPlaceholder t = longestPlaceholder s

/-- The placeholder is the same, and no byte moved. -/
theorem Steady.of_same (contents : s.platform.contents <+: t.platform.contents)
    (defects : t.platform.script.groupDefect = s.platform.script.groupDefect)
    (limits : t.device.limits = s.device.limits)
    (same : t.device.placeholder = s.device.placeholder) : Steady s t where
  toPads := .of_same (Contents.gains_prefix contents) same
  defects := defects
  limits := limits
  longest padded := by
    obtain ⟨more, contents⟩ := contents
    rw [longestPlaceholder, longestPlaceholder, limits, same, Platform.bufferSize, ← contents,
      Contents.of_append padded.known]
    rfl

instance : Evolution Steady where
  refl _ := .of_same (List.prefix_refl _) rfl rfl rfl
  trans first second :=
    { toPads := Evolution.trans first.toPads second.toPads
      defects := second.defects.trans first.defects
      limits := second.limits.trans first.limits
      longest := fun padded =>
        (second.longest (first.padded padded)).trans (first.longest padded) }

/-- A placeholder of that many bytes is there or is made, or this ends in its fault. -/
theorem wp_placeholderFor_fault (size : Nat) (s : Live Gpu) :
    (placeholderFor size).wp (fun _ t => Steady s t ∧ placeholderFault s size = none)
      (fun e t => Steady s t ∧ placeholderFault s size = some e) s := by
  have same : Steady s s := Evolution.refl s
  unfold placeholderFault
  by_cases last : LastGroup size
  · have late : (placeholderFor size).wp (fun _ _ => False)
        (fun e t => t = s ∧ e = .assertion (.overflow .multiply)) s := by
      rw [placeholderFor, alignUp_eq_ite, if_pos last]
      exact ⟨rfl, rfl⟩
    rw [if_pos last]
    refine late.mono (fun _ _ => False.elim) ?_
    rintro _ _ ⟨rfl, rfl⟩
    exact ⟨same, rfl⟩
  · rw [if_neg last, placeholderFor, alignUp_eq_ite, if_neg last, wp_bind, wp_check_ok]
    simp only [wp_bind, wp_get, wp_pure, wp_ite, wp_attempt, Platform.wp_createBuffer,
      Live.wp_update, Live.wp_self]
    refine ⟨fun short => ⟨fun within => ?_, fun past => ?_⟩,
      fun long => ⟨same, if_neg fun more => ?_⟩⟩
    · -- A longer placeholder is made, and the longest there can be is as long as before.
      refine ⟨⟨.of_longer short, rfl, rfl, fun _ => ?_⟩, if_neg fun more => ?_⟩
      · rw [longestPlaceholder, longestPlaceholder, Platform.bufferSize_makeBuffer]
        have grown := Nat.le_of_lt (Nat.lt_of_lt_of_le short within)
        exact (Nat.max_eq_right within).trans (Nat.max_eq_right grown).symm
      · exact absurd (Nat.lt_of_le_of_lt (Nat.le_max_right _ _) more) (Nat.not_lt.2 within)
    · exact ⟨same, if_pos (Nat.max_lt.2 ⟨short, past⟩)⟩
    · exact long (Nat.lt_of_le_of_lt (Nat.le_max_left _ _) more)

theorem Steady.placeholderFault_eq (h : Steady s t) (padded : Padded s) :
    placeholderFault t = placeholderFault s := by
  funext size
  rw [placeholderFault, placeholderFault, h.longest padded, h.limits]

instance : Growing Steady where
  grows h := .of_same h.contents h.defects rfl rfl

instance : ImageFrame Steady where
  toFrame := .ofHeld (fun keeps same => .of_same (List.prefix_refl _) rfl keeps.limits same)
    (fun h => Growing.grows h.toGrows) fun size s =>
      (wp_placeholderFor_fault size s).mono (fun _ _ => And.left) fun _ _ => And.left
  images _ := .of_same (List.prefix_refl _) rfl rfl rfl

instance : ListFrame Steady where
  custody _ _ := .of_same (List.prefix_refl _) rfl rfl rfl
  pool _ _ := .of_same (List.prefix_refl _) rfl rfl rfl
  polled _ := .of_same (List.prefix_refl _) rfl rfl rfl

theorem Supplies.stocks (h : Supplies s t) : Stocks s t := h.tables.vacates.stocks h.pads

/-- Memory is where it should be, and there can be the same placeholders and bind groups as in the
state `s₀`. -/
structure Ready (s₀ s : Live Gpu) : Prop where
  stocked : Stocked s
  padded : Padded s
  faults : placeholderFault s = placeholderFault s₀
  defects : s.platform.script.groupDefect = s₀.platform.script.groupDefect

theorem Ready.next (h : Ready s₀ s) (supplies : Supplies s t) (steady : Steady s t) :
    Ready s₀ t where
  stocked := supplies.stocks h.stocked
  padded := steady.padded h.padded
  faults := (steady.placeholderFault_eq h.padded).trans h.faults
  defects := steady.defects.trans h.defects

/-- The fault that an action on a device ends in if it ends neither well nor refused. -/
abbrev FaultsAs {α : Type} (s₀ : Live Gpu) (f : Option Fault) (a : Action (Live Gpu) α) : Prop :=
  FaultsWith (Ready s₀) (Fault.Refuses s₀.platform.script.groupDefect) f a

theorem faultsAs_of_steady {α : Type} {a : Action (Live Gpu) α} (supplies : a.Evolves Supplies)
    (steady : a.Evolves Steady)
    (ends : ∀ s, Ready s₀ s → a.wp (fun _ _ => f = none)
      (fun e _ => e.Refuses s₀.platform.script.groupDefect ∨ f = some e) s) : FaultsAs s₀ f a := by
  intro s ready
  refine (((supplies s).and (steady s)).and (ends s ready)).mono ?_ fun _ _ ended => ended.2
  exact fun _ _ ended => ⟨ready.next ended.1.1 ended.1.2, ended.2⟩

/-! ## Slots -/

/-- No size in an allocation is in the last group of the word. -/
theorem Stocked.not_lastGroup (stocked : Stocked s) {id : UInt32} {a : BufferAllocation}
    (held : s.device.buffers.get? id = some a) {first size : Nat}
    (inside : min (first + size) maxWord ≤ a.size) : ¬LastGroup size := by
  obtain ⟨n, native, -⟩ := (stocked id a held).room
  obtain ⟨room, -, small⟩ := nativeSize_fits native
  rw [LastGroup]
  rw [BufferAllocation.size] at inside
  simp only [copyAlignment] at *
  omega

/-- A slot that holds memory can be refused, but all its sizes stay in the word. -/
theorem wp_bindWindow_fails (index binding : UInt32) (kind : ResourceKind) (slot : Binding)
    (stocked : Stocked s) :
    (bindWindow index binding kind slot).wp (fun _ _ => True) (fun e _ => ∃ d, e = .device d)
      s := by
  simp only [bindWindow, resolve, checkLocal, allocation, wp_bind, Live.wp_self, wp_require,
    wp_orRefuse, wp_check, wp_pure, decide_eq_true_eq]
  refine ⟨fun _ => ⟨fun a held => ⟨fun inside => ⟨fun _ => ⟨fun _ _ => trivial, fun e late => ?_⟩,
    fun _ => ⟨_, rfl⟩⟩, fun _ => ⟨_, rfl⟩⟩, fun _ => ⟨_, rfl⟩⟩, fun _ => ⟨_, rfl⟩⟩
  rw [alignUp_eq_ite, if_neg (stocked.not_lastGroup held inside)] at late
  cases late

theorem faultsAs_bindSlot (binder : Binder) (index binding : UInt32) (kind : ResourceKind) :
    FaultsAs s₀ ((binder.emptySize? index binding).bind (placeholderFault s₀))
      (bindSlot binder index binding kind) := by
  refine faultsAs_of_steady (supplies_bindSlot binder index binding kind)
    (framed_bindSlot binder index binding kind) fun s ready => ?_
  unfold bindSlot
  dsimp only
  cases kept : (binder.slot? index binding).filter fun b => !b.pointer.isNull with
  | some b =>
    rw [Binder.emptySize?_of_filter_eq_some kept]
    refine (wp_bindWindow_fails index binding kind b ready.stocked).mono (fun _ _ _ => rfl) ?_
    rintro _ _ ⟨d, rfl⟩
    exact .inl (.device d)
  | none =>
    rw [Binder.emptySize?_of_filter_eq_none kept, Option.bind_some, ← ready.faults, wp_bind]
    exact (wp_placeholderFor_fault _ s).mono (fun _ _ => And.right) fun _ _ failed => .inr failed.2

theorem faultsAs_allocSet (layout : CacheHandle) : FaultsAs s₀ none (allocSet layout) := by
  refine faultsAs_of_steady (supplies_allocSet layout) (framed_allocSet layout) fun s _ => ?_
  simp only [allocSet, layoutEntry, wp_bind, Live.wp_self, wp_orRefuse, wp_checked, Live.wp_update,
    wp_pure, implies_true, true_and]
  exact ⟨fun _ _ e _ => .inl (.device e), fun _ => .inl (.device _)⟩

theorem faultsAs_writeSet (set : SetHandle) (slots : SetLayout) (binder : Binder)
    (index : UInt32) :
    FaultsAs s₀ (slots.toList.findSome? fun slot =>
        (binder.emptySize? index slot.1).bind (placeholderFault s₀))
      (writeSet set slots binder index) := by
  refine (FaultsWith.mapM (fun slot => faultsAs_bindSlot binder index slot.1 slot.2)
    slots.toList).before fun entries => ?_
  intro s ready
  simp only [layoutEntry, wp_bind, Live.wp_self, wp_orRefuse, wp_attempt,
    Platform.wp_createBindGroup, and_true]
  refine ⟨fun entry _ => ⟨fun _ => ?_, fun words found => .inl ?_⟩, fun _ => .inl (.device _)⟩
  · -- A bind group comes after all placeholders, and takes none away.
    have made : s.platform.Makes
        (s.platform.makeBindGroup s.device.connection ⟨entry.native, entries⟩).2 :=
      .told (List.prefix_refl _) (Nat.le_refl _) rfl rfl rfl
    exact ready.next ⟨Basis.makes made, Basis.makes made, Basis.makes made, rfl⟩ (Basis.makes made)
  · rw [ready.defects] at found
    exact .group found

end Gpu

namespace Recording

open Gpu (Ready)

variable {s₀ : Live Gpu}

abbrev FaultsAs {α : Type} (s₀ : Live Gpu) (f : Option Fault) (a : Action Recording α) : Prop :=
  FaultsWith (fun r => Ready s₀ r.live) (Fault.Refuses s₀.platform.script.groupDefect) f a

theorem faultsAs_onDevice {α : Type} {f : Option Fault} {a : Action (Live Gpu) α}
    (h : Gpu.FaultsAs s₀ f a) : FaultsAs s₀ f (onDevice a) :=
  fun r ready => (wp_onDevice _).2 (h r.live ready)

theorem faultsAs_updateList (f : CommandList → CommandList) : FaultsAs s₀ none (updateList f) :=
  fun _ ready => ⟨ready, rfl⟩

theorem faultsAs_bindSet (binder : Binder) (index : UInt32) (layout : CacheHandle)
    (slots : SetLayout) :
    FaultsAs s₀ (slots.toList.findSome? fun slot =>
        (binder.emptySize? index slot.1).bind (Gpu.placeholderFault s₀))
      (bindSet binder index layout slots) := by
  refine .after (faultsAs_onDevice (Gpu.faultsAs_allocSet layout)) fun set => ?_
  refine .after (faultsAs_updateList _) fun _ => ?_
  exact (faultsAs_onDevice (Gpu.faultsAs_writeSet set slots binder index)).before
    fun group => faultsAs_updateList _

theorem faultsAs_slice (pointer : Pointer) (command : Buffer → Nat → Recorded) :
    FaultsAs s₀ none (slice pointer command) := by
  refine .after (faultsAs_onDevice fun s ready => ?_) fun _ => .pure _
  simp only [Gpu.bufferSlice, Gpu.resolve, Gpu.checkLocal, Gpu.allocation, wp_bind, Live.wp_self,
    wp_require, wp_orRefuse, wp_pure]
  exact ⟨fun _ => ⟨fun a _ => ⟨fun _ => ⟨ready, trivial⟩, fun _ => .inl (.device _)⟩,
    fun _ => .inl (.device _)⟩, fun _ => .inl (.device _)⟩

theorem faultsAs_bindGeometry (binder : Binder) : FaultsAs s₀ none (bindGeometry binder) := by
  -- Buffers are only looked up, and each look-up can be refused.
  rw [bindGeometry_eq]
  refine FaultsWith.forM_none fun lookUp member => ?_
  obtain ⟨pointer, command, rfl⟩ : ∃ pointer command, lookUp = slice pointer command := by
    rcases List.mem_append.1 member with index | vertex
    · obtain ⟨e, -, rfl⟩ := List.mem_map.1 index
      exact ⟨_, _, rfl⟩
    · obtain ⟨e, -, rfl⟩ := List.mem_map.1 vertex
      exact ⟨_, _, rfl⟩
  exact .after (faultsAs_slice pointer command) fun _ => faultsAs_updateList _

theorem faultsAs_bindSets (binder : Binder) (sets : List (CacheHandle × SetLayout)) :
    FaultsAs s₀ ((binder.emptySizes sets).findSome? (Gpu.placeholderFault s₀))
      (sets.zipIdx.forM fun ((layout, slots), index) =>
        bindSet binder (UInt32.ofNat index) layout slots) := by
  rw [Binder.findSome?_emptySizes]
  exact FaultsWith.forM fun ⟨⟨layout, slots⟩, _⟩ _ => faultsAs_bindSet binder _ layout slots

/-- Why there is no placeholder for an empty slot of the bound pipeline: the first reason there
is. -/
def placeholderFault (binder : Binder) (r : Recording) : Option Fault :=
  (r.list.bound.toList.flatMap fun bound => binder.emptySizes bound.sets).findSome?
    (Gpu.placeholderFault r.live)

/-- On a list that records, binding resources ends well or is refused, unless it comes to an empty
slot for which there is no placeholder. -/
theorem wp_bindResources_faults (binder : Binder) {r : Recording} (stocked : Gpu.Stocked r.live)
    (padded : Gpu.Padded r.live) (records : r.list.finalized = false) :
    (bindResources binder).wp (fun _ _ => placeholderFault binder r = none)
      (fun e _ => e.Refuses r.live.platform.script.groupDefect ∨
        placeholderFault binder r = some e) r := by
  simp only [bindResources, wp_bind (a := checkRecording), wp_bind (a := current),
    wp_bind (a := orRefuse _ _), wp_checkRecording, wp_current, wp_orRefuse]
  refine ⟨fun _ => ⟨fun bound isBound => ?_, fun _ => .inl (.device _)⟩, fun ended => ?_⟩
  · have fault : placeholderFault binder r =
        (binder.emptySizes bound.sets).findSome? (Gpu.placeholderFault r.live) := by
      rw [placeholderFault, isBound, Option.toList_some, List.flatMap_singleton]
    have geometry : FaultsAs r.live none
        (if bound.graphics then bindGeometry binder else pure ()) := by
      split
      · exact faultsAs_bindGeometry binder
      · exact .pure ()
    have binds := (@faultsAs_bindSets r.live binder bound.sets).before fun _ => geometry
    rw [fault]
    exact (binds r ⟨stocked, padded, rfl, rfl⟩).mono (fun _ _ ended => ended.2)
      fun _ _ ended => ended
  · simp [records] at ended

end Recording

namespace Client

/-- A client has its device make whatever it wants, and binds the resources of any binder to any
list that records. The slots of the bound pipeline that are empty in the binder ask for placeholders
of their sizes, in order. If there is a placeholder of each size, this ends well or it is refused:
with an error of the device, or by the graphics library, which has something against a bind group.
Otherwise it never ends well. It panics at the first size of which there is none, unless it is
refused before that: the size is in the last group of the word, so that it cannot be rounded up, or
no placeholder can be as long. It panics in no other way, so no size of a slot that holds memory
overflows, however large it is. -/
theorem binding_overflows {c : Client} (reachable : c.Reachable) {list : CommandList}
    (records : list.finalized = false) (binder : Binder) :
    let r : Recording := ⟨c.live, list⟩
    let ended := ((Recording.bindResources binder).outcome r).1
    let refused := (∃ e, ended = .error (.device e)) ∨
      ∃ windows words, c.live.platform.script.groupDefect windows = some words ∧
        ended = .error (.native (.bindGroup words))
    (ended = .ok () ∨ refused ∨
      ∃ e, Recording.placeholderFault binder r = some e ∧ ended = .error e) ∧
    (∀ e, Recording.placeholderFault binder r = some e → refused ∨ ended = .error e) := by
  intro r ended refused
  have ends := Recording.wp_bindResources_faults binder (r := r) reachable.stocked reachable.padded
    records
  -- Nothing else comes of it than what `ends` tells, so each result is compared with that.
  obtain ⟨result, t, outcome⟩ : ∃ result t, (Recording.bindResources binder).outcome r =
      (result, t) := ⟨_, _, rfl⟩
  have same : ended = result := congrArg Prod.fst outcome
  cases result with
  | ok =>
    have fine := ends.ended outcome
    exact ⟨.inl same, fun e fault => by cases fine.symm.trans fault⟩
  | error e =>
    rcases ends.failed outcome with refuses | fault
    · have refused : refused := by
        cases refuses with
        | device e => exact .inl ⟨e, same⟩
        | group found => exact .inr ⟨_, _, found, same⟩
      exact ⟨.inr (.inl refused), fun _ _ => .inl refused⟩
    · refine ⟨.inr (.inr ⟨e, fault, same⟩), fun e' fault' => .inr ?_⟩
      cases fault.symm.trans fault'
      exact same

/-- A slot that is emptied with as many bytes as a buffer may have is no reason to panic. With the
largest size that can be rounded up, the library has no placeholder for it. -/
theorem binding_overflows_largest :
    let bind (size : UInt64) := (bindWide [.bind 0 0 .readOnlyBuffer .null (.window size)]).1
    (bind 0x10000000 = .ok () ∨ ∃ e, bind 0x10000000 = .error (.device e)) ∧
      (bind 0xFFFFFFFFFFFFFFFC =
          .error (.native (.buffer "strata placeholder" 0xFFFFFFFFFFFFFFFC 0x10000000)) ∨
        ∃ e, bind 0xFFFFFFFFFFFFFFFC = .error (.device e)) := by
  intro bind
  let binder (size : UInt64) : Binder :=
    widePipeline.binder.after [.bind 0 0 .readOnlyBuffer .null (.window size)]
  let list : CommandList := { buffer := ⟨0⟩, bound := some ⟨false, widePipeline.sets⟩ }
  have reachable : withWide.Reachable := makes_wide.reachable ⟨_, fresh_opened ⟨1⟩, [], rfl⟩
  have records : list.finalized = false := rfl
  have made : withWide.live.platform.script.groupDefect = fun _ => none := by
    simp only [withWide, onDevice, Gpu.createComputePipeline, reflectStage_wide]
    rfl
  have fits : Recording.placeholderFault (binder 0x10000000) ⟨withWide.live, list⟩ = none := by
    simp only [withWide, onDevice, Gpu.createComputePipeline, reflectStage_wide]
    decide +kernel
  have long : Recording.placeholderFault (binder 0xFFFFFFFFFFFFFFFC) ⟨withWide.live, list⟩ =
      some (.native (.buffer "strata placeholder" 0xFFFFFFFFFFFFFFFC 0x10000000)) := by
    simp only [withWide, onDevice, Gpu.createComputePipeline, reflectStage_wide]
    decide +kernel
  constructor
  · obtain ⟨ok | (device | ⟨_, _, found, -⟩) | ⟨e, fault, -⟩, -⟩ :=
      binding_overflows reachable records (binder 0x10000000)
    · exact .inl ok
    · exact .inr device
    · simp [made] at found
    · cases fits.symm.trans fault
  · obtain ⟨-, panics⟩ := binding_overflows reachable records (binder 0xFFFFFFFFFFFFFFFC)
    obtain (device | ⟨_, _, found, -⟩) | failed := panics _ long
    · exact .inr device
    · simp [made] at found
    · exact .inl failed

/-- But one that is emptied as a whole of nothing asks for a size that cannot be. -/
theorem empty_whole_overflows :
    ¬∀ c : Client, c.Reachable → ∀ list : CommandList, list.finalized = false →
      ∀ binder failed, ((Recording.bindResources binder).outcome ⟨c.live, list⟩).1 ≠
        .error (.assertion failed) := by
  intro never
  let rebind : BinderCall := .bind 0 0 .readOnlyBuffer .null .whole
  have reachable : withWide.Reachable := makes_wide.reachable ⟨_, fresh_opened ⟨1⟩, [], rfl⟩
  have panics : (bindWide [rebind]).1 = .error (.assertion (.overflow .multiply)) := by
    simp only [rebind, bindWide, withWide, onDevice, Gpu.createComputePipeline, reflectStage_wide]
    rfl
  exact never _ reachable _ rfl _ _ panics

end Client

end DeviceLayer
