import DeviceLayer.Resource

/-!
# Caches of native objects

Objects are kept by the description they were made from, so that equal descriptions share one
object. A handle is the position of the object, an index has the handle of each description, and
objects are never dropped.

* `ObjectCache.lookup` — the handle of a description.
* `ObjectCache.get?`, `modify`, `modifyEach` — the object behind a handle, and all objects.
* `ObjectCache.getOrInsert` — the handle of a description, the object being made on first sight.
-/

namespace DeviceLayer

/-- Objects in order of creation, and the handles of the descriptions they were made from. -/
structure ObjectCache (κ α : Type) where
  index : List (κ × CacheHandle) := []
  objects : List α := []

namespace ObjectCache

variable {κ α : Type}

/-- The handle of the object at a position. -/
def handleAt (position : Nat) : CacheHandle := ⟨UInt32.ofNat position⟩

def size (c : ObjectCache κ α) : Nat := c.objects.length

def isEmpty (c : ObjectCache κ α) : Bool := c.objects.isEmpty

def values (c : ObjectCache κ α) : List α := c.objects

/-- The descriptions that have been seen. -/
def keys (c : ObjectCache κ α) : List κ := c.index.map (·.1)

/-- The handle of a description that has been seen. -/
def lookup [DecidableEq κ] (c : ObjectCache κ α) (key : κ) : Option CacheHandle :=
  (c.index.find? fun e => decide (e.1 = key)).map (·.2)

/-- The object behind a handle. -/
def get? (c : ObjectCache κ α) (handle : CacheHandle) : Option α :=
  c.objects[handle.index.toNat]?

/-- Changes the object behind a handle; an unknown handle changes nothing. -/
def modify (c : ObjectCache κ α) (handle : CacheHandle) (f : α → α) : ObjectCache κ α :=
  { c with objects := c.objects.modify handle.index.toNat f }

/-- Changes every object, by its handle. -/
def modifyEach (c : ObjectCache κ α) (f : CacheHandle → α → α) : ObjectCache κ α :=
  { c with objects := c.objects.mapIdx fun position => f (handleAt position) }

/-- Adds an object under a description that has none. -/
def push (c : ObjectCache κ α) (key : κ) (object : α) : ObjectCache κ α :=
  ⟨c.index ++ [(key, handleAt c.size)], c.objects ++ [object]⟩

/-- The handle of a description, `create` making the object when there is none yet. When `create`
fails there is no new cache. -/
def getOrInsert [DecidableEq κ] {m : Type → Type} [Monad m] (c : ObjectCache κ α) (key : κ)
    (create : m α) : m (CacheHandle × ObjectCache κ α) :=
  match c.lookup key with
  | some handle => pure (handle, c)
  | none => do
    let object ← create
    pure (handleAt c.size, c.push key object)

@[simp] theorem size_push (c : ObjectCache κ α) (key : κ) (object : α) :
    (c.push key object).size = c.size + 1 := by
  simp [size, push]

@[simp] theorem size_modify (c : ObjectCache κ α) (h : CacheHandle) (f : α → α) :
    (c.modify h f).size = c.size := by
  simp [size, modify]

@[simp] theorem size_modifyEach (c : ObjectCache κ α) (f : CacheHandle → α → α) :
    (c.modifyEach f).size = c.size := by
  simp [size, modifyEach]

@[simp] theorem keys_push (c : ObjectCache κ α) (key : κ) (object : α) :
    (c.push key object).keys = c.keys ++ [key] := by
  simp [keys, push]

theorem handleAt_toNat (handle : CacheHandle) : handleAt handle.index.toNat = handle := by
  simp [handleAt]

/-- The new object is behind the next handle, and no other handle changes. -/
theorem get?_push (c : ObjectCache κ α) (key : κ) (object : α) (handle : CacheHandle) :
    (c.push key object).get? handle =
      if handle.index.toNat = c.size then some object else c.get? handle := by
  simp only [get?, push, size, List.getElem?_append, List.getElem?_singleton]
  grind

theorem get?_modify (c : ObjectCache κ α) (handle other : CacheHandle) (f : α → α) :
    (c.modify handle f).get? other =
      if other = handle then (c.get? other).map f else c.get? other := by
  simp only [get?, modify, List.getElem?_modify]
  by_cases same : other = handle
  · subst same
    simp
  · have apart : handle.index.toNat ≠ other.index.toNat := fun e =>
      same (congrArg CacheHandle.mk (UInt32.toNat_inj.1 e.symm))
    simp [same, apart]

theorem get?_modifyEach (c : ObjectCache κ α) (f : CacheHandle → α → α) (handle : CacheHandle) :
    (c.modifyEach f).get? handle = (c.get? handle).map (f handle) := by
  rw [get?, get?, modifyEach, List.getElem?_mapIdx, handleAt_toNat]

/-- A description has no handle exactly when it has not been seen. -/
theorem lookup_eq_none_iff [DecidableEq κ] {c : ObjectCache κ α} {key : κ} :
    c.lookup key = none ↔ key ∉ c.keys := by
  simp only [lookup, keys, Option.map_eq_none_iff, List.find?_eq_none, List.mem_map,
    decide_eq_true_eq, not_exists, not_and]

end ObjectCache

end DeviceLayer
