/-!
# Names

What the names of a session stand for. A name stands for one thing at a time; giving it to another
thing takes it from the first.

* `Names.get?`, `set`, `erase` — with `get?_set` and `get?_erase` for what they change.
* `Names.any`, `reject` — questions and changes that look at the things, not at the names.
-/

namespace DeviceLayer

/-- Things of one kind by their names. -/
structure Names (α : Type) where
  entries : List (String × α) := []

namespace Names

variable {α : Type}

/-- What a name stands for. -/
def get? (n : Names α) (name : String) : Option α := n.entries.lookup name

/-- Takes a name away. -/
def erase (n : Names α) (name : String) : Names α := ⟨n.entries.filter fun e => e.1 != name⟩

/-- Gives a name to a thing. -/
def set (n : Names α) (name : String) (thing : α) : Names α :=
  ⟨(name, thing) :: (n.erase name).entries⟩

/-- Whether some named thing is as asked. -/
def any (n : Names α) (p : α → Bool) : Bool := n.entries.any fun e => p e.2

/-- Takes the names of all things that are as asked. -/
def reject (n : Names α) (p : α → Bool) : Names α := ⟨n.entries.filter fun e => !p e.2⟩

theorem get?_erase (n : Names α) (name q : String) :
    (n.erase name).get? q = if q = name then none else n.get? q := by
  obtain ⟨entries⟩ := n
  induction entries with
  | nil => simp [get?, erase]
  | cons e rest ih =>
    simp only [get?, erase] at ih ⊢
    by_cases he : e.1 = name
    · rw [List.filter_cons_of_neg (by simp [he]), ih, List.lookup_cons]
      by_cases hq : q = name
      · simp [hq]
      · have hqe : (q == e.1) = false := by simp [he, hq]
        simp [hq, hqe]
    · rw [List.filter_cons_of_pos (by simp [he]), List.lookup_cons, List.lookup_cons, ih]
      by_cases hq : q = name
      · have hqe : (q == e.1) = false := by simp [hq, Ne.symm he]
        simp [hq, hq ▸ hqe]
      · simp [hq]

theorem get?_set (n : Names α) (name q : String) (thing : α) :
    (n.set name thing).get? q = if q = name then some thing else n.get? q := by
  have h := get?_erase n name q
  simp only [get?] at h
  simp only [get?, set, List.lookup_cons, h]
  by_cases hq : q = name
  · simp [hq]
  · have hqn : (q == name) = false := by simp [hq]
    simp [hq, hqn]

end Names

end DeviceLayer
