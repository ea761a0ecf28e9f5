import DeviceLayer.Fault
import DeviceLayer.SortedMap

/-!
# Set layouts

The layout of a descriptor set says which kind each of its slots has. Layouts are what the layout
cache is asked for, so there is one form of each: its slots by ascending binding number, and no
number twice. A list of slots is brought to that form by sorting it and leaving out repeats.

* `SetLayout.sort`, `firsts` — the slots by number, in their order where numbers are the same; and
  the first of each number.
* `SetLayout.ofEntries` — the layout of a list of slots.
* `SetLayout.kindOf` — what kind a slot has, by halving.
-/

namespace DeviceLayer

open Ranked (rank)

/-- The kinds of one set's slots by binding number; the key of the layout cache. -/
abbrev SetLayout := SortedMap UInt32 ResourceKind

namespace SetLayout

abbrev Entry := UInt32 × ResourceKind

/-! ## Sorting -/

/-- Puts an entry ahead of the first one whose number is not smaller. -/
def place (e : Entry) : List Entry → List Entry
  | [] => [e]
  | e' :: rest => if e.1 ≤ e'.1 then e :: e' :: rest else e' :: place e rest

/-- The entries by number. Those with one number stay in their order. -/
def sort : List Entry → List Entry
  | [] => []
  | e :: rest => place e (sort rest)

theorem mem_place {e x : Entry} {entries : List Entry} :
    x ∈ place e entries ↔ x = e ∨ x ∈ entries := by
  induction entries with
  | nil => simp [place]
  | cons e' rest ih =>
    simp only [place]
    split
    · simp only [List.mem_cons]
    · simp only [List.mem_cons, ih]
      exact or_left_comm

theorem pairwise_place (e : Entry) {entries : List Entry}
    (sorted : entries.Pairwise fun a b => a.1 ≤ b.1) :
    (place e entries).Pairwise fun a b => a.1 ≤ b.1 := by
  induction entries with
  | nil => simp [place]
  | cons e' rest ih =>
    obtain ⟨least, sorted⟩ := List.pairwise_cons.1 sorted
    simp only [place]
    split
    · rename_i before
      refine .cons (fun x member => ?_) (.cons least sorted)
      rcases List.mem_cons.1 member with rfl | later
      · exact before
      · exact UInt32.le_trans before (least x later)
    · rename_i behind
      refine .cons (fun x member => ?_) (ih sorted)
      rcases mem_place.1 member with rfl | later
      · exact UInt32.le_of_lt (UInt32.not_le.1 behind)
      · exact least x later

theorem pairwise_sort (entries : List Entry) :
    (sort entries).Pairwise fun a b => a.1 ≤ b.1 := by
  induction entries with
  | nil => exact .nil
  | cons e rest ih => exact pairwise_place e ih

/-! ## Repeats -/

/-- Of each run of one number the first entry, where the number of the last one is `last`. -/
def firstsAfter (last : UInt32) : List Entry → List Entry
  | [] => []
  | e :: rest => if e.1 = last then firstsAfter last rest else e :: firstsAfter e.1 rest

def firsts : List Entry → List Entry
  | [] => []
  | e :: rest => e :: firstsAfter e.1 rest

theorem rank_lt_rank {a b : UInt32} : rank a < rank b ↔ a < b :=
  Int.ofNat_lt.trans UInt32.lt_iff_toNat_lt.symm

/-- Where the numbers ascend, none comes back after its run. -/
theorem pairwise_cons_firstsAfter {e : Entry} {entries : List Entry}
    (sorted : (e :: entries).Pairwise fun a b => a.1 ≤ b.1) :
    (e :: firstsAfter e.1 entries).Pairwise fun a b => rank a.1 < rank b.1 := by
  induction entries generalizing e with
  | nil => exact List.pairwise_singleton _ _
  | cons e' rest ih =>
    obtain ⟨least, later⟩ := List.pairwise_cons.1 sorted
    simp only [firstsAfter]
    split
    · exact ih (sorted.sublist ((List.sublist_cons_self e' rest).cons_cons e))
    · rename_i other
      have before : rank e.1 < rank e'.1 :=
        rank_lt_rank.2 (UInt32.lt_of_le_of_ne (least e' List.mem_cons_self) (Ne.symm other))
      have ascends := ih later
      refine .cons (fun x member => ?_) ascends
      rcases List.mem_cons.1 member with rfl | member
      · exact before
      · exact Int.lt_trans before ((List.pairwise_cons.1 ascends).1 x member)

theorem pairwise_firsts {entries : List Entry}
    (sorted : entries.Pairwise fun a b => a.1 ≤ b.1) :
    (firsts entries).Pairwise fun a b => rank a.1 < rank b.1 := by
  cases entries with
  | nil => exact .nil
  | cons e rest => exact pairwise_cons_firstsAfter sorted

/-- The layout of a list of slots. Of several with one binding number the first counts. -/
def ofEntries (entries : List Entry) : SetLayout :=
  ⟨firsts (sort entries), pairwise_firsts (pairwise_sort entries)⟩

/-! ## Looking a slot up -/

/-- Where a search for a number ends: of the `size` entries from `base` on it keeps the part that
may hold the number, until that is one entry. -/
def search (number : UInt32) (entries : List Entry) (base size : Nat)
    (inside : base + size ≤ entries.length) : Nat :=
  if several : 1 < size then
    let half := size / 2
    have : base + half < entries.length := by omega
    if number < entries[base + half].1 then search number entries base (size - half) (by omega)
    else search number entries (base + half) (size - half) (by omega)
  else base
termination_by size

/-- The kind of the slot with a binding number, if there is one. -/
def kindOf (layout : SetLayout) (number : UInt32) : Option ResourceKind :=
  let entries := layout.entries
  let last := search number entries 0 entries.length (by omega)
  entries[last]?.bind fun e => if e.1 = number then some e.2 else none

end SetLayout

end DeviceLayer
