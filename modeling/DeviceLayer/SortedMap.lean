/-!
# Finite maps in key order

Allocation tables, descriptor bindings and launch mappings are finite maps whose entries are
listed in ascending key order. A map here *is* that list, so two maps with the same look-ups are
equal (`SortedMap.ext_get?`) and every answer that lists a map is ordered for free.

* `Ranked` — keys that embed into the integers; the embedding gives the order.
* `SortedMap.get?`, `insert`, `erase`, `mapValues` — the operations.
* `get?_insert`, `get?_erase`, `get?_mapValues` — what each does to a look-up.
-/

namespace DeviceLayer

/-- Keys ordered by an integer rank that tells them apart. -/
class Ranked (κ : Type) where
  rank : κ → Int
  rank_inj : ∀ {a b : κ}, rank a = rank b → a = b

instance : Ranked Nat := ⟨Int.ofNat, by intro a b h; exact Int.ofNat.inj h⟩

instance : Ranked Int := ⟨id, id⟩

instance : Ranked UInt32 where
  rank k := Int.ofNat k.toNat
  rank_inj h := UInt32.toNat_inj.1 (Int.ofNat.inj h)

open Ranked (rank rank_inj)

theorem Ranked.rank_eq_iff {κ : Type} [Ranked κ] {a b : κ} : rank a = rank b ↔ a = b :=
  ⟨rank_inj, fun h => h ▸ rfl⟩

/-- A finite map, kept as its entries in strictly ascending key order. -/
structure SortedMap (κ α : Type) [Ranked κ] where
  entries : List (κ × α)
  sorted : entries.Pairwise fun a b => rank a.1 < rank b.1

namespace SortedMap

variable {κ α β : Type} [Ranked κ]

instance [DecidableEq κ] [DecidableEq α] : DecidableEq (SortedMap κ α) := fun m n =>
  if h : m.entries = n.entries then
    isTrue (by cases m; cases n; cases h; rfl)
  else
    isFalse fun e => h (congrArg entries e)

/-! ## The entry list -/

/-- The value stored at `k`, on a bare entry list. -/
def find? (k : κ) : List (κ × α) → Option α
  | [] => none
  | (k', v) :: rest => if rank k = rank k' then some v else find? k rest

/-- Puts `(k, v)` at its place, replacing an entry with the same key. -/
def place (k : κ) (v : α) : List (κ × α) → List (κ × α)
  | [] => [(k, v)]
  | (k', v') :: rest =>
    if rank k < rank k' then (k, v) :: (k', v') :: rest
    else if rank k = rank k' then (k, v) :: rest
    else (k', v') :: place k v rest

/-- Drops the entry at `k`. -/
def drop (k : κ) : List (κ × α) → List (κ × α)
  | [] => []
  | (k', v') :: rest => if rank k = rank k' then rest else (k', v') :: drop k rest

theorem mem_of_mem_place {k : κ} {v : α} {e : κ × α} {l : List (κ × α)} (h : e ∈ place k v l) :
    e = (k, v) ∨ e ∈ l := by
  induction l with
  | nil => simpa [place] using h
  | cons hd tl ih =>
    obtain ⟨k', v'⟩ := hd
    simp only [place] at h
    split at h
    · simpa using h
    · split at h
      · simp only [List.mem_cons] at h ⊢
        exact h.imp id Or.inr
      · simp only [List.mem_cons] at h ⊢
        rcases h with h | h
        · exact Or.inr (Or.inl h)
        · exact (ih h).imp id Or.inr

theorem place_sorted (k : κ) (v : α) {l : List (κ × α)}
    (h : l.Pairwise fun a b => rank a.1 < rank b.1) :
    (place k v l).Pairwise fun a b => rank a.1 < rank b.1 := by
  induction l with
  | nil => simp [place]
  | cons hd tl ih =>
    obtain ⟨k', v'⟩ := hd
    rw [List.pairwise_cons] at h
    simp only [place]
    split
    · rename_i hlt
      rw [List.pairwise_cons, List.pairwise_cons]
      refine ⟨fun b hb => ?_, h⟩
      rcases List.mem_cons.1 hb with rfl | hb
      · exact hlt
      · exact Int.lt_trans hlt (h.1 b hb)
    · split
      · rename_i heq
        rw [List.pairwise_cons]
        exact ⟨fun b hb => by have := h.1 b hb; simp only at *; omega, h.2⟩
      · rename_i hlt hne
        rw [List.pairwise_cons]
        refine ⟨fun b hb => ?_, ih h.2⟩
        rcases mem_of_mem_place hb with rfl | hb
        · simp only; omega
        · exact h.1 b hb

theorem drop_sublist (k : κ) (l : List (κ × α)) : (drop k l).Sublist l := by
  induction l with
  | nil => exact List.Sublist.refl _
  | cons hd tl ih =>
    obtain ⟨k', v'⟩ := hd
    simp only [drop]
    split
    · exact List.sublist_cons_self _ _
    · exact ih.cons_cons _

theorem find?_place (k q : κ) (v : α) (l : List (κ × α)) :
    find? q (place k v l) = if rank q = rank k then some v else find? q l := by
  induction l with
  | nil => simp [place, find?]
  | cons hd tl ih =>
    obtain ⟨k', v'⟩ := hd
    simp only [place]
    split
    · simp only [find?]
    · split
      · rename_i heq
        simp only [find?, heq]
        split <;> rfl
      · rename_i hne
        simp only [find?, ih]
        split
        · rename_i hq
          rw [if_neg]
          omega
        · rfl

theorem find?_eq_none_of_lt {q : κ} {l : List (κ × α)} (h : ∀ e ∈ l, rank q < rank e.1) :
    find? q l = none := by
  induction l with
  | nil => rfl
  | cons hd tl ih =>
    obtain ⟨k', v'⟩ := hd
    have := h (k', v') (List.mem_cons_self ..)
    simp only [find?]
    rw [if_neg (by simp only at this; omega)]
    exact ih fun e he => h e (List.mem_cons_of_mem _ he)

theorem find?_drop (k q : κ) {l : List (κ × α)}
    (h : l.Pairwise fun a b => rank a.1 < rank b.1) :
    find? q (drop k l) = if rank q = rank k then none else find? q l := by
  induction l with
  | nil => simp [drop, find?]
  | cons hd tl ih =>
    obtain ⟨k', v'⟩ := hd
    rw [List.pairwise_cons] at h
    simp only [drop]
    split
    · rename_i heq
      simp only [find?]
      split
      · rename_i hq
        exact find?_eq_none_of_lt fun e he => by
          have := h.1 e he
          simp only at this; omega
      · rename_i hq
        rw [if_neg (by omega)]
    · rename_i hne
      simp only [find?, ih h.2]
      split
      · rename_i hq
        rw [if_neg (by omega)]
      · rfl

theorem place_of_above {k : κ} {v : α} {l : List (κ × α)} (h : ∀ e ∈ l, rank e.1 < rank k) :
    place k v l = l ++ [(k, v)] := by
  induction l with
  | nil => rfl
  | cons hd tl ih =>
    obtain ⟨k', v'⟩ := hd
    have := h (k', v') (List.mem_cons_self ..)
    simp only [place]
    rw [if_neg (by simp only at this; omega), if_neg (by simp only at this; omega),
      ih fun e he => h e (List.mem_cons_of_mem _ he), List.cons_append]

theorem find?_map (q : κ) (f : α → β) (l : List (κ × α)) :
    find? q (l.map fun e => (e.1, f e.2)) = (find? q l).map f := by
  induction l with
  | nil => rfl
  | cons hd tl ih =>
    obtain ⟨k', v'⟩ := hd
    simp only [List.map_cons, find?, ih]
    split <;> rfl

/-! ## The map -/

def empty : SortedMap κ α := ⟨[], List.Pairwise.nil⟩

instance : EmptyCollection (SortedMap κ α) := ⟨empty⟩

instance : Inhabited (SortedMap κ α) := ⟨empty⟩

def get? (m : SortedMap κ α) (k : κ) : Option α := find? k m.entries

/-- Binds `k` to `v`, replacing what was there. -/
def insert (m : SortedMap κ α) (k : κ) (v : α) : SortedMap κ α :=
  ⟨place k v m.entries, place_sorted k v m.sorted⟩

def erase (m : SortedMap κ α) (k : κ) : SortedMap κ α :=
  ⟨drop k m.entries, m.sorted.sublist (drop_sublist k m.entries)⟩

def mapValues (m : SortedMap κ α) (f : α → β) : SortedMap κ β :=
  ⟨m.entries.map fun e => (e.1, f e.2), by
    rw [List.pairwise_map]
    exact m.sorted⟩

def toList (m : SortedMap κ α) : List (κ × α) := m.entries

def keys (m : SortedMap κ α) : List κ := m.entries.map (·.1)

def size (m : SortedMap κ α) : Nat := m.entries.length

def isEmpty (m : SortedMap κ α) : Bool := m.entries.isEmpty

/-- Binds every pair of the list in turn; of two with one key the later wins. -/
def ofList (l : List (κ × α)) : SortedMap κ α := l.foldl (fun m e => m.insert e.1 e.2) empty

@[simp] theorem get?_empty (k : κ) : (∅ : SortedMap κ α).get? k = none := rfl

theorem get?_insert (m : SortedMap κ α) (k q : κ) (v : α) :
    (m.insert k v).get? q = if rank q = rank k then some v else m.get? q :=
  find?_place k q v m.entries

@[simp] theorem get?_insert_self (m : SortedMap κ α) (k : κ) (v : α) :
    (m.insert k v).get? k = some v := by
  rw [get?_insert, if_pos rfl]

theorem get?_insert_of_ne (m : SortedMap κ α) {k q : κ} (v : α) (h : q ≠ k) :
    (m.insert k v).get? q = m.get? q := by
  rw [get?_insert, if_neg fun e => h (rank_inj e)]

theorem get?_erase (m : SortedMap κ α) (k q : κ) :
    (m.erase k).get? q = if rank q = rank k then none else m.get? q :=
  find?_drop k q m.sorted

/-- What is found in a map is what was added last, or was there before. -/
theorem get?_of_insert {m : SortedMap κ α} {k q : κ} {v u : α}
    (found : (m.insert k v).get? q = some u) : q = k ∧ u = v ∨ m.get? q = some u := by
  rw [get?_insert] at found
  split at found
  · rename_i same
    exact .inl ⟨rank_inj same, (Option.some.inj found).symm⟩
  · exact .inr found

theorem get?_of_erase {m : SortedMap κ α} {k q : κ} {v : α}
    (left : (m.erase k).get? q = some v) : m.get? q = some v := by
  rw [get?_erase] at left
  split at left
  · cases left
  · exact left

@[simp] theorem get?_mapValues (m : SortedMap κ α) (f : α → β) (q : κ) :
    (m.mapValues f).get? q = (m.get? q).map f :=
  find?_map q f m.entries

/-- Entries in order, each above the bound, are determined by their look-ups. -/
theorem entries_eq_of_find?_eq {l m : List (κ × α)}
    (hl : l.Pairwise fun a b => rank a.1 < rank b.1)
    (hm : m.Pairwise fun a b => rank a.1 < rank b.1)
    (h : ∀ q, find? q l = find? q m) : l = m := by
  induction l generalizing m with
  | nil =>
    cases m with
    | nil => rfl
    | cons hd tl =>
      obtain ⟨k, v⟩ := hd
      have := h k
      simp [find?] at this
  | cons hd tl ih =>
    obtain ⟨k, v⟩ := hd
    rw [List.pairwise_cons] at hl
    cases m with
    | nil =>
      have := h k
      simp [find?] at this
    | cons hd' tl' =>
      obtain ⟨k', v'⟩ := hd'
      rw [List.pairwise_cons] at hm
      have hk : rank k = rank k' := by
        have h1 := h k
        have h2 := h k'
        simp only [find?, if_true] at h1 h2
        by_cases hlt : rank k < rank k'
        · rw [if_neg (by omega), find?_eq_none_of_lt] at h1
          · cases h1
          · intro e he
            have := hm.1 e he
            simp only at this; omega
        · by_cases hgt : rank k' < rank k
          · rw [if_neg (by omega), find?_eq_none_of_lt] at h2
            · cases h2
            · intro e he
              have := hl.1 e he
              simp only at this; omega
          · omega
      have hkk : k = k' := rank_inj hk
      subst hkk
      have hv : v = v' := by
        have h1 := h k
        simpa [find?] using h1
      subst hv
      have : tl = tl' := by
        refine ih hl.2 hm.2 fun q => ?_
        by_cases hq : rank q = rank k
        · rw [find?_eq_none_of_lt, find?_eq_none_of_lt]
          · intro e he
            have := hm.1 e he
            simp only at this; omega
          · intro e he
            have := hl.1 e he
            simp only at this; omega
        · have := h q
          simpa only [find?, if_neg hq] using this
      rw [this]

/-- A map is its look-ups. -/
theorem ext_get? {m n : SortedMap κ α} (h : ∀ q, m.get? q = n.get? q) : m = n := by
  have he := entries_eq_of_find?_eq m.sorted n.sorted h
  cases m; cases n
  cases he
  rfl

/-- A key above all others goes to the end. -/
theorem toList_insert_of_above {m : SortedMap κ α} {k : κ} (v : α)
    (h : ∀ e ∈ m.toList, rank e.1 < rank k) : (m.insert k v).toList = m.toList ++ [(k, v)] :=
  place_of_above h

/-- What is bound in the order of the keys stays in that order. -/
theorem toList_ofList {l : List (κ × α)} (sorted : l.Pairwise fun a b => rank a.1 < rank b.1) :
    (ofList l).toList = l := by
  have behind (l : List (κ × α)) (sorted : l.Pairwise fun a b => rank a.1 < rank b.1)
      (m : SortedMap κ α) (above : ∀ a ∈ m.toList, ∀ b ∈ l, rank a.1 < rank b.1) :
      (l.foldl (fun m e => m.insert e.1 e.2) m).toList = m.toList ++ l := by
    induction l generalizing m with
    | nil => exact (List.append_nil _).symm
    | cons e rest ih =>
      obtain ⟨first, ordered⟩ := List.pairwise_cons.1 sorted
      have last : (m.insert e.1 e.2).toList = m.toList ++ [e] :=
        toList_insert_of_above e.2 fun a mem => above a mem e List.mem_cons_self
      rw [List.foldl_cons, ih ordered, last, List.append_assoc, List.singleton_append]
      intro a mem b later
      rw [last, List.mem_append, List.mem_singleton] at mem
      obtain mem | rfl := mem
      · exact above a mem b (List.mem_cons_of_mem _ later)
      · exact first b later
  exact behind l sorted empty nofun

theorem insert_insert (m : SortedMap κ α) (k : κ) (v w : α) :
    (m.insert k v).insert k w = m.insert k w := by
  refine ext_get? fun q => ?_
  rw [get?_insert, get?_insert, get?_insert]
  split <;> rfl

/-- Putting back what is there changes nothing. -/
theorem insert_eq_self {m : SortedMap κ α} {k : κ} {v : α} (h : m.get? k = some v) :
    m.insert k v = m := by
  refine ext_get? fun q => ?_
  rw [get?_insert]
  split
  · rename_i same
    rw [rank_inj same, h]
  · rfl

theorem mapValues_insert (m : SortedMap κ α) (k : κ) (v : α) (f : α → β) :
    (m.insert k v).mapValues f = (m.mapValues f).insert k (f v) := by
  refine ext_get? fun q => ?_
  rw [get?_mapValues, get?_insert, get?_insert, get?_mapValues]
  split <;> rfl

theorem mapValues_erase (m : SortedMap κ α) (k : κ) (f : α → β) :
    (m.erase k).mapValues f = (m.mapValues f).erase k := by
  refine ext_get? fun q => ?_
  rw [get?_mapValues, get?_erase, get?_erase, get?_mapValues]
  split <;> rfl

theorem find?_eq_some_iff {l : List (κ × α)} (hl : l.Pairwise fun a b => rank a.1 < rank b.1)
    {k : κ} {v : α} : find? k l = some v ↔ (k, v) ∈ l := by
  induction l with
  | nil => simp [find?]
  | cons hd tl ih =>
    obtain ⟨k', v'⟩ := hd
    rw [List.pairwise_cons] at hl
    simp only [find?, List.mem_cons, Prod.mk.injEq]
    by_cases hk : rank k = rank k'
    · have hkk : k = k' := rank_inj hk
      subst hkk
      rw [if_pos rfl]
      constructor
      · intro h
        exact Or.inl ⟨rfl, (Option.some.inj h).symm⟩
      · rintro (⟨_, rfl⟩ | hmem)
        · rfl
        · have := hl.1 _ hmem
          simp only at this; omega
    · rw [if_neg hk, ih hl.2]
      constructor
      · exact Or.inr
      · rintro (⟨rfl, _⟩ | hmem)
        · exact absurd rfl hk
        · exact hmem

theorem get?_eq_some_iff {m : SortedMap κ α} {k : κ} {v : α} :
    m.get? k = some v ↔ (k, v) ∈ m.toList :=
  find?_eq_some_iff m.sorted

end SortedMap

end DeviceLayer
