import DeviceLayer.Binder
import Mathlib.Data.List.Nodup

/-!
# One form of each layout

Layouts are looked up in a cache by what they are, so all ways to the same slots have to end in the
same layout. A list of slots, in any order and with numbers that come back, says of each number what
its first slot says; that alone is what its layout keeps.

* `SetLayout.firstKind?` — what a list of slots says of a number.
* `SetLayout.filter_sort` — the sort keeps slots of one number in their order.
* `SetLayout.kindOf_eq` — the search finds what there is.
* `SetLayout.layout_canonical` — the layouts of all lists.
-/

namespace DeviceLayer

open Ranked (rank)

namespace SetLayout

variable {q : UInt32} {entries others : List Entry}

/-- The kind of the first slot with a binding number. -/
def firstKind? (q : UInt32) (entries : List Entry) : Option ResourceKind :=
  (entries.find? fun e => e.1 = q).map (·.2)

/-! ## The first slot of each number -/

theorem firstKind?_cons (e : Entry) (entries : List Entry) :
    firstKind? q (e :: entries) = if e.1 = q then some e.2 else firstKind? q entries := by
  rw [firstKind?, firstKind?, List.find?_cons]
  split <;> simp_all

theorem filter_place (e : Entry) (entries : List Entry) :
    (place e entries).filter (·.1 = q) = (e :: entries).filter (·.1 = q) := by
  induction entries with
  | nil => rfl
  | cons e' rest ih =>
    simp only [place]
    split
    · rfl
    · rename_i behind
      -- The two have different numbers, so one of them is left out.
      have apart : ¬(e.1 = q ∧ e'.1 = q) := fun both =>
        behind (UInt32.le_of_eq (both.1.trans both.2.symm))
      simp only [List.filter_cons, ih, decide_eq_true_eq]
      by_cases here : e.1 = q
      · have there : ¬e'.1 = q := fun h' => apart ⟨here, h'⟩
        simp only [here, there, if_true, if_false]
      · simp only [here, if_false]

/-- The sort leaves the slots of one number in their order. -/
theorem filter_sort (entries : List Entry) :
    (sort entries).filter (·.1 = q) = entries.filter (·.1 = q) := by
  induction entries with
  | nil => rfl
  | cons e rest ih => rw [sort, filter_place, List.filter_cons, List.filter_cons, ih]

theorem firstKind?_sort (entries : List Entry) :
    firstKind? q (sort entries) = firstKind? q entries := by
  rw [firstKind?, firstKind?, ← List.head?_filter, ← List.head?_filter, filter_sort]

theorem firstKind?_firstsAfter {last : UInt32} (other : last ≠ q) (entries : List Entry) :
    firstKind? q (firstsAfter last entries) = firstKind? q entries := by
  induction entries generalizing last with
  | nil => rfl
  | cons e rest ih =>
    simp only [firstsAfter]
    split
    · rename_i same
      rw [firstKind?_cons, if_neg (same ▸ other), ih other]
    · rw [firstKind?_cons, firstKind?_cons]
      split
      · rfl
      · rename_i apart
        exact ih apart

theorem firstKind?_firsts (entries : List Entry) :
    firstKind? q (firsts entries) = firstKind? q entries := by
  cases entries with
  | nil => rfl
  | cons e rest =>
    rw [firsts, firstKind?_cons, firstKind?_cons]
    split
    · rfl
    · rename_i apart
      exact firstKind?_firstsAfter apart rest

theorem get?_eq_firstKind? (layout : SetLayout) (q : UInt32) :
    layout.get? q = firstKind? q layout.entries := by
  rw [SortedMap.get?]
  induction layout.entries with
  | nil => rfl
  | cons e rest ih =>
    rw [firstKind?_cons, ← ih, SortedMap.find?]
    simp only [Ranked.rank_eq_iff, eq_comm]

/-- A layout says of each number what the first slot of that number says. -/
theorem get?_ofEntries (entries : List Entry) (q : UInt32) :
    (ofEntries entries).get? q = firstKind? q entries := by
  rw [get?_eq_firstKind?, ofEntries, firstKind?_firsts, firstKind?_sort]

theorem ofEntries_eq_iff {layout : SetLayout} :
    ofEntries entries = layout ↔ ∀ q, firstKind? q entries = layout.get? q := by
  simp only [← get?_ofEntries]
  exact ⟨fun same q => same ▸ rfl, SortedMap.ext_get?⟩

/-! ## The search -/

theorem lt_of_index_lt (sorted : entries.Pairwise fun a b => rank a.1 < rank b.1) {i j : Nat}
    (less : i < j) (known : j < entries.length) : entries[i].1 < entries[j].1 :=
  rank_lt_rank.1 (List.pairwise_iff_getElem.1 sorted i j (Nat.lt_trans less known) known less)

/-- If the part that is searched has the number, so has the half that is kept, to the end. -/
theorem search_eq {base size : Nat} {inside : base + size ≤ entries.length}
    (sorted : entries.Pairwise fun a b => rank a.1 < rank b.1) {i : Nat}
    (known : i < entries.length) (here : entries[i].1 = q) (least : base ≤ i)
    (past : i < base + size) : search q entries base size inside = i := by
  fun_induction search q entries base size inside with
  | case1 base size inside several half middle before ih =>
    -- From the middle on all numbers are larger.
    have sooner : i < base + half := by
      refine Nat.lt_of_not_le fun later => ?_
      rcases Nat.lt_or_eq_of_le later with later | rfl
      · have ascends := lt_of_index_lt sorted later known
        rw [here] at ascends
        exact UInt32.lt_asymm before ascends
      · exact UInt32.lt_irrefl q (here ▸ before)
    exact ih least (by omega)
  | case2 base size inside several half middle behind ih =>
    have later : base + half ≤ i := by
      refine Nat.le_of_not_lt fun sooner => behind ?_
      exact here ▸ lt_of_index_lt sorted sooner middle
    exact ih later (by omega)
  | case3 => omega

/-- The search finds what there is. -/
theorem kindOf_eq (layout : SetLayout) (q : UInt32) : layout.kindOf q = layout.get? q := by
  rw [kindOf]
  cases found : layout.get? q with
  | some kind =>
    have member : (q, kind) ∈ layout.entries := SortedMap.get?_eq_some_iff.1 found
    obtain ⟨i, known, same⟩ := List.getElem_of_mem member
    have here : layout.entries[i].1 = q := congrArg Prod.fst same
    rw [search_eq layout.sorted known here (Nat.zero_le i) (by rwa [Nat.zero_add]),
      List.getElem?_eq_getElem known, same, Option.bind_some, if_pos rfl]
  | none =>
    refine Option.bind_eq_none_iff.2 fun e there => if_neg ?_
    rintro rfl
    have known : layout.get? e.1 = some e.2 :=
      SortedMap.get?_eq_some_iff.2 (List.mem_of_getElem? there)
    cases found.symm.trans known

/-! ## Lists of slots -/

/-- Where no number comes back, a slot is the first one of its number. -/
theorem firstKind?_eq_some_iff (distinct : (entries.map (·.1)).Nodup) {kind : ResourceKind} :
    firstKind? q entries = some kind ↔ (q, kind) ∈ entries := by
  induction entries with
  | nil => simp [firstKind?]
  | cons e rest ih =>
    obtain ⟨isNew, distinct⟩ := List.nodup_cons.1 distinct
    rw [firstKind?_cons, List.mem_cons]
    split
    · rename_i here
      have notLater : (q, kind) ∉ rest := fun later =>
        isNew (List.mem_map.2 ⟨(q, kind), later, here.symm⟩)
      simp only [notLater, or_false, Option.some.injEq, Prod.ext_iff, here, true_and, eq_comm]
    · rename_i apart
      rw [ih distinct]
      exact ⟨.inr, fun h => h.resolve_left fun same => apart (same ▸ rfl)⟩

theorem firstKind?_perm (distinct : (entries.map (·.1)).Nodup) (perm : entries.Perm others)
    (q : UInt32) : firstKind? q entries = firstKind? q others := by
  have distinct' : (others.map (·.1)).Nodup := (perm.map _).nodup_iff.1 distinct
  refine Option.ext fun kind => ?_
  rw [firstKind?_eq_some_iff distinct, firstKind?_eq_some_iff distinct', perm.mem_iff]

/-- The layouts of lists of slots. The binding numbers of a layout ascend. What it has at a number
is the kind of the first slot with that number. So two lists have one layout just where they say the
same of every number, as they do where one is the other in another order, without numbers that come
back. And it is the layout of a set with just these slots. -/
theorem layout_canonical (entries : List Entry) :
    let layout := ofEntries entries
    layout.entries.Pairwise (fun a b => a.1 < b.1) ∧
      (∀ q, layout.kindOf q = firstKind? q entries) ∧
      (∀ others, layout = ofEntries others ↔ ∀ q, firstKind? q entries = firstKind? q others) ∧
      (∀ others, (entries.map (·.1)).Nodup → entries.Perm others → layout = ofEntries others) ∧
      ∀ set : BindingSet, set.layout = layout ↔
        ∀ q, (set.get? q).map (·.kind) = firstKind? q entries := by
  intro layout
  have agree (others : List Entry) :
      layout = ofEntries others ↔ ∀ q, firstKind? q entries = firstKind? q others := by
    simp only [layout, ofEntries_eq_iff, get?_ofEntries]
  refine ⟨layout.sorted.imp rank_lt_rank.1, fun q => ?_, agree, fun others distinct perm => ?_,
    fun set => ?_⟩
  · rw [kindOf_eq, get?_ofEntries]
  · exact (agree others).2 (firstKind?_perm distinct perm)
  · rw [eq_comm, ofEntries_eq_iff]
    simp only [BindingSet.get?_layout, eq_comm]

/-- Three slots in no order. -/
def shuffled : List Entry := [(2, .readOnlyBuffer), (0, .readWriteBuffer), (1, .readOnlyBuffer)]

theorem layout_canonical_shuffled :
    let layout := ofEntries shuffled
    layout.entries = [(0, .readWriteBuffer), (1, .readOnlyBuffer), (2, .readOnlyBuffer)] ∧
      layout.kindOf 2 = some .readOnlyBuffer ∧ layout = ofEntries shuffled.reverse ∧
      layout = ofEntries (shuffled ++ [(2, .readWriteBuffer)]) := by
  intro layout
  obtain ⟨-, kinds, -, orders, -⟩ := layout_canonical shuffled
  exact ⟨rfl, kinds 2, orders _ (by decide) (List.reverse_perm _).symm, rfl⟩

end SetLayout

end DeviceLayer
