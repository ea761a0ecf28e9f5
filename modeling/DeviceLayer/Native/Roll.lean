import DeviceLayer.Native.Connection
import DeviceLayer.SortedMap

/-!
# Rolls

Every connection to the graphics library numbers its objects of one kind from zero on, and the
trace knows an object by that number alone. Of several connections' objects with one number it
shows the one that was made first.

* `Roll.enter` — enters a new object, and answers the object that the trace shows for it.
* `Roll.enter_of_new` — an object whose number is new to the roll is shown as itself.
* `Roll.enter_of_known` — any other object is shown as the first with its number.
-/

namespace DeviceLayer

/-- The objects of one kind that all connections made. -/
structure Roll (α : Type) where
  /-- How many objects each connection made, by its index. -/
  made : SortedMap Nat Nat := ∅
  /-- The first object of each number. -/
  first : Array α := #[]

namespace Roll

variable {α : Type}

/-- The number of a connection's next object. -/
def next (r : Roll α) (c : Connection) : Nat := (r.made.get? c.index).getD 0

/-- Enters a new object of a connection; the answer is the object that is shown for it. -/
def enter (r : Roll α) (c : Connection) (a : α) : α × Roll α :=
  (r.first.getD (r.next c) a,
    { made := r.made.insert c.index (r.next c + 1)
      first := if r.next c < r.first.size then r.first else r.first.push a })

theorem enter_of_new {r : Roll α} {c : Connection} (h : r.first.size ≤ r.next c) (a : α) :
    (r.enter c a).1 = a := by
  simp [enter, Array.getD_eq_getD_getElem?, Array.getElem?_eq_none h]

theorem enter_of_known {r : Roll α} {c : Connection} (h : r.next c < r.first.size) (a : α) :
    (r.enter c a).1 = r.first[r.next c] := by
  simp [enter, h]

end Roll

end DeviceLayer
