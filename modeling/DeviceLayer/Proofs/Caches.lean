import DeviceLayer.Proofs.Actions
import Mathlib.Data.List.Dedup
import Mathlib.Data.List.Nodup
import Mathlib.Data.List.Perm.Subperm

/-!
# What caches keep

Objects are found by the description they were made from. However descriptions are asked for, looked
up and their objects changed, and whichever objects cannot be made: descriptions and handles stand
for each other, and what is behind a handle is what was made for it.

* `ObjectCache.Indexed` — the index numbers the objects, with one description for each.
* `CacheCall`, `CacheUse` — a cache in use, with the creations that were tried for it.
* `CacheUse.Faithful`, `CacheUse.faithful` — what holds after every run, as long as there are
  handles enough.
-/

namespace DeviceLayer

open DeviceLayer.Action

namespace ObjectCache

variable {κ α : Type} {c c' : ObjectCache κ α} {key : κ} {handle : CacheHandle}

/-- The index numbers the objects, with one description for each. -/
structure Indexed (c : ObjectCache κ α) : Prop where
  distinct : c.keys.Nodup
  handles : c.index.map (·.2) = (List.range c.size).map handleAt

theorem indexed_empty : ({} : ObjectCache κ α).Indexed := ⟨List.nodup_nil, rfl⟩

theorem Indexed.push (h : c.Indexed) (unseen : key ∉ c.keys) (object : α) :
    (c.push key object).Indexed where
  distinct := by
    rw [keys_push, ← List.concat_eq_append]
    exact h.distinct.concat unseen
  handles := by
    rw [size_push, List.range_succ, List.map_append, ← h.handles, ObjectCache.push,
      List.map_append]
    rfl

/-- It does not matter to the index what becomes of objects. -/
theorem Indexed.of_index (h : c.Indexed) (index : c'.index = c.index) (size : c'.size = c.size) :
    c'.Indexed :=
  ⟨by rw [keys, index]; exact h.distinct, by rw [index, size]; exact h.handles⟩

theorem Indexed.length_keys (h : c.Indexed) : c.keys.length = c.size := by
  have same := congrArg List.length h.handles
  simpa [keys] using same

theorem Indexed.getElem?_index (h : c.Indexed) (i : Nat) :
    c.index[i]? = c.keys[i]?.map fun key => (key, handleAt i) := by
  have numbered := congrArg (·[i]?) h.handles
  simp only [List.getElem?_map] at numbered
  rw [keys, List.getElem?_map]
  cases entry : c.index[i]? with
  | none => rfl
  | some e =>
    rw [entry] at numbered
    obtain ⟨j, at_, number⟩ := Option.map_eq_some_iff.1 numbered.symm
    obtain ⟨_, rfl⟩ := List.getElem?_eq_some_iff.1 at_
    rw [List.getElem_range] at number
    exact congrArg (fun handle => some (e.1, handle)) number.symm

/-- An object has a handle of its own for as long as there are handles enough. -/
theorem toNat_handleAt {i : Nat} (small : i < UInt32.size) : (handleAt i).index.toNat = i :=
  UInt32.toNat_ofNat_of_lt small

theorem lt_of_get? {object : α} (shown : c.get? handle = some object) :
    handle.index.toNat < c.size :=
  (List.getElem?_eq_some_iff.1 shown).1

theorem exists_get? (there : handle.index.toNat < c.size) : ∃ object, c.get? handle = some object :=
  ⟨_, List.getElem?_eq_getElem there⟩

variable [DecidableEq κ]

theorem mem_of_lookup (found : c.lookup key = some handle) : (key, handle) ∈ c.index := by
  obtain ⟨e, first, rfl⟩ := Option.map_eq_some_iff.1 found
  have same := List.find?_some first
  obtain rfl : e.1 = key := of_decide_eq_true same
  exact List.mem_of_find?_eq_some first

theorem Indexed.lookup_eq_some_iff_mem (h : c.Indexed) :
    c.lookup key = some handle ↔ (key, handle) ∈ c.index := by
  refine ⟨mem_of_lookup, fun member => ?_⟩
  cases found : c.lookup key with
  | none => exact absurd (List.mem_map_of_mem (f := (·.1)) member) (lookup_eq_none_iff.1 found)
  | some other =>
    -- Two entries of one description are one.
    have same := List.inj_on_of_nodup_map h.distinct (mem_of_lookup found) member rfl
    exact congrArg (fun e => some e.2) same

/-- As long as there are handles enough, a handle is the position of its description. -/
theorem Indexed.lookup_eq_some_iff (h : c.Indexed) (few : c.size ≤ UInt32.size) :
    c.lookup key = some handle ↔ c.keys[handle.index.toNat]? = some key := by
  rw [h.lookup_eq_some_iff_mem, List.mem_iff_getElem?]
  constructor
  · rintro ⟨i, entry⟩
    rw [h.getElem?_index, Option.map_eq_some_iff] at entry
    obtain ⟨_, at_, same⟩ := entry
    cases same
    have there := (List.getElem?_eq_some_iff.1 at_).1
    rw [h.length_keys] at there
    rwa [toNat_handleAt (Nat.lt_of_lt_of_le there few)]
  · intro at_
    refine ⟨handle.index.toNat, ?_⟩
    rw [h.getElem?_index, at_, Option.map_some, handleAt_toNat]

theorem lookup_push (unseen : c.lookup key = none) (object : α) :
    (c.push key object).lookup key = some (handleAt c.size) := by
  have missing := Option.map_eq_none_iff.1 unseen
  simp [lookup, push, List.find?_append, missing]

/-- Descriptions that come later take no handle from those that were there. -/
theorem lookup_of_prefix (more : c.index <+: c'.index) (found : c.lookup key = some handle) :
    c'.lookup key = some handle := by
  obtain ⟨new, more⟩ := more
  obtain ⟨e, first, rfl⟩ := Option.map_eq_some_iff.1 found
  rw [lookup, ← more, List.find?_append, first]
  rfl

end ObjectCache

/-! ## Caches in use -/

/-- What is asked of a cache. -/
inductive CacheCall (κ α : Type) where
  /-- The handle of a description. Making an object from it would come to `made`. -/
  | insert (key : κ) (made : Except Fault α)
  | lookup (key : κ)
  | get (handle : CacheHandle)
  | modify (handle : CacheHandle) (f : α → α)
  | modifyEach (f : CacheHandle → α → α)

/-- A cache with the creations that were tried for it, in order. -/
structure CacheUse (κ α : Type) where
  cache : ObjectCache κ α := {}
  tried : List (κ × Except Fault α) := []

namespace CacheCall

variable {κ α : Type}

/-- The description that a handle is asked for. -/
def asks? : CacheCall κ α → Option κ
  | .insert key _ => some key
  | _ => none

/-- What the caller does to the object behind a handle. -/
def edit (handle : CacheHandle) : CacheCall κ α → α → α
  | .modify other f => if handle = other then f else id
  | .modifyEach f => f handle
  | _ => id

end CacheCall

namespace CacheUse

variable {κ α : Type}

/-- Tries to make an object, and leaves the try in the list of all tries. -/
def create (key : κ) (made : Except Fault α) : Action (List (κ × Except Fault α)) α := do
  modify (· ++ [(key, made)])
  Action.check made

variable [DecidableEq κ]

/-- Asks for the handle of a description. -/
def insert (key : κ) (made : Except Fault α) (u : CacheUse κ α) :
    Except Fault CacheHandle × CacheUse κ α :=
  match (u.cache.getOrInsert key (create key made)).outcome u.tried with
  | (.ok (handle, cache), tried) => (.ok handle, ⟨cache, tried⟩)
  | (.error e, tried) => (.error e, { u with tried })

def next (u : CacheUse κ α) : CacheCall κ α → CacheUse κ α
  | .insert key made => (u.insert key made).2
  | .lookup _ | .get _ => u
  | .modify handle f => { u with cache := u.cache.modify handle f }
  | .modifyEach f => { u with cache := u.cache.modifyEach f }

def run (u : CacheUse κ α) (calls : List (CacheCall κ α)) : CacheUse κ α := calls.foldl next u

theorem run_append (u : CacheUse κ α) (before after : List (CacheCall κ α)) :
    u.run (before ++ after) = (u.run before).run after := List.foldl_append ..

variable {u : CacheUse κ α} {key : κ} {handle : CacheHandle} {object : α}

/-- The descriptions that objects were made from, in order. -/
def made (u : CacheUse κ α) : List κ := (u.tried.filter fun t => t.2.isOk).map (·.1)

/-! ## One call -/

theorem insert_of_some (found : u.cache.lookup key = some handle) (made : Except Fault α) :
    u.insert key made = (.ok handle, u) := by
  simp only [insert, ObjectCache.getOrInsert, found]
  rfl

theorem insert_ok_of_none (unseen : u.cache.lookup key = none) (object : α) :
    u.insert key (.ok object) = (.ok (ObjectCache.handleAt u.cache.size),
      ⟨u.cache.push key object, u.tried ++ [(key, .ok object)]⟩) := by
  simp only [insert, ObjectCache.getOrInsert, unseen]
  rfl

theorem insert_error_of_none (unseen : u.cache.lookup key = none) (e : Fault) :
    u.insert key (.error e) =
      (.error e, { u with tried := u.tried ++ [(key, .error e)] }) := by
  simp only [insert, ObjectCache.getOrInsert, unseen]
  rfl

/-- A call makes an object from a new description. Or it makes none, and what becomes of those there
are is the caller's doing. -/
theorem next_cases (u : CacheUse κ α) (call : CacheCall κ α) :
    (∃ key object, call = .insert key (.ok object) ∧ u.cache.lookup key = none ∧
      u.next call = ⟨u.cache.push key object, u.tried ++ [(key, .ok object)]⟩) ∨
    ((u.next call).cache.index = u.cache.index ∧ (u.next call).cache.size = u.cache.size ∧
      (u.next call).made = u.made ∧
      ∀ handle,
        (u.next call).cache.get? handle = (u.cache.get? handle).map (call.edit handle)) := by
  cases call with
  | insert key made =>
    cases found : u.cache.lookup key with
    | some handle =>
      rw [next, insert_of_some found]
      exact .inr ⟨rfl, rfl, rfl, fun _ => Option.map_id'.symm⟩
    | none =>
      cases made with
      | ok object =>
        exact .inl ⟨key, object, rfl, found, congrArg Prod.snd (insert_ok_of_none found _)⟩
      | error e =>
        rw [next, insert_error_of_none found]
        refine .inr ⟨rfl, rfl, ?_, fun _ => Option.map_id'.symm⟩
        simp [CacheUse.made, Except.isOk, Except.toBool]
  | lookup | get => exact .inr ⟨rfl, rfl, rfl, fun _ => Option.map_id'.symm⟩
  | modify other f =>
    refine .inr ⟨rfl, ObjectCache.size_modify .., rfl, fun handle => ?_⟩
    rw [next, ObjectCache.get?_modify, CacheCall.edit]
    split
    · rfl
    · exact Option.map_id'.symm
  | modifyEach f =>
    exact .inr ⟨rfl, ObjectCache.size_modifyEach .., rfl, ObjectCache.get?_modifyEach _ f⟩

/-! ## What every call keeps -/

/-- An object was made from each description that has a handle, and from none twice. -/
structure Sound (u : CacheUse κ α) : Prop where
  indexed : u.cache.Indexed
  made : u.made = u.cache.keys

theorem Sound.next (h : u.Sound) (call : CacheCall κ α) : (u.next call).Sound := by
  obtain ⟨key, object, -, unseen, after⟩ | ⟨index, size, made, -⟩ := u.next_cases call
  · rw [after]
    refine ⟨h.indexed.push (ObjectCache.lookup_eq_none_iff.1 unseen) object, ?_⟩
    rw [ObjectCache.keys_push, ← h.made]
    simp [CacheUse.made, Except.isOk, Except.toBool]
  · refine ⟨h.indexed.of_index index size, ?_⟩
    rw [made, h.made, ObjectCache.keys, ObjectCache.keys, index]

theorem index_next (u : CacheUse κ α) (call : CacheCall κ α) :
    u.cache.index <+: (u.next call).cache.index := by
  obtain ⟨_, _, -, -, after⟩ | ⟨index, -⟩ := u.next_cases call
  · rw [after]
    exact List.prefix_append _ _
  · exact index ▸ List.prefix_refl _

theorem get?_next (shown : u.cache.get? handle = some object) (call : CacheCall κ α) :
    (u.next call).cache.get? handle = some (call.edit handle object) := by
  obtain ⟨key, made, rfl, -, after⟩ | ⟨-, -, -, edited⟩ := u.next_cases call
  · have before : handle.index.toNat ≠ u.cache.size :=
      Nat.ne_of_lt (ObjectCache.lt_of_get? shown)
    rw [after, ObjectCache.get?_push, if_neg before, shown]
    rfl
  · rw [edited, shown]
    rfl

theorem keys_next (u : CacheUse κ α) (call : CacheCall κ α) :
    (u.next call).cache.keys ⊆ u.cache.keys ++ call.asks?.toList := by
  obtain ⟨key, _, rfl, -, after⟩ | ⟨index, -⟩ := u.next_cases call
  · rw [after, ObjectCache.keys_push]
    exact List.Subset.refl _
  · rw [ObjectCache.keys, index]
    exact List.subset_append_left _ _

/-! ## Runs -/

theorem Sound.run (h : u.Sound) (calls : List (CacheCall κ α)) : (u.run calls).Sound := by
  induction calls generalizing u with
  | nil => exact h
  | cons call calls ih => exact ih (h.next call)

theorem index_run (u : CacheUse κ α) (calls : List (CacheCall κ α)) :
    u.cache.index <+: (u.run calls).cache.index := by
  induction calls generalizing u with
  | nil => exact List.prefix_refl _
  | cons call calls ih => exact (u.index_next call).trans (ih (u.next call))

theorem get?_run (shown : u.cache.get? handle = some object) (calls : List (CacheCall κ α)) :
    (u.run calls).cache.get? handle =
      some (calls.foldl (fun object call => call.edit handle object) object) := by
  induction calls generalizing u object with
  | nil => exact shown
  | cons call calls ih => exact ih (get?_next shown call)

theorem keys_run (u : CacheUse κ α) (calls : List (CacheCall κ α)) :
    (u.run calls).cache.keys ⊆ u.cache.keys ++ calls.filterMap CacheCall.asks? := by
  induction calls generalizing u with
  | nil => exact List.subset_append_left _ _
  | cons call calls ih =>
    refine List.Subset.trans (ih (u.next call)) (List.append_subset.2 ⟨?_, ?_⟩)
    · refine List.Subset.trans (u.keys_next call)
        (List.append_subset.2 ⟨List.subset_append_left _ _, ?_⟩)
      cases asks : call.asks? <;> simp [asks]
    · cases asks : call.asks? <;> simp [asks]

/-- An object that is made stays behind its handle, for its caller to change. -/
theorem run_insert (unseen : u.cache.lookup key = none) (room : u.cache.size < UInt32.size)
    (object : α) (after : List (CacheCall κ α)) :
    ∃ handle, (u.insert key (.ok object)).1 = .ok handle ∧
      (u.run (.insert key (.ok object) :: after)).cache.lookup key = some handle ∧
      (u.run (.insert key (.ok object) :: after)).cache.get? handle =
        some (after.foldl (fun object call => call.edit handle object) object) := by
  have made := insert_ok_of_none unseen object
  have next : u.next (.insert key (.ok object)) =
      ⟨u.cache.push key object, u.tried ++ [(key, .ok object)]⟩ := congrArg Prod.snd made
  refine ⟨_, congrArg Prod.fst made, ?_, get?_run ?_ after⟩
  · refine ObjectCache.lookup_of_prefix (index_run _ after) ?_
    rw [next]
    exact ObjectCache.lookup_push unseen object
  · rw [next, ObjectCache.get?_push, if_pos (ObjectCache.toNat_handleAt room)]

/-- What was made along the way can be told from the descriptions that have a handle now. -/
theorem made_of_mem_keys (calls : List (CacheCall κ α)) (unseen : key ∉ u.cache.keys)
    (seen : key ∈ (u.run calls).cache.keys) :
    ∃ before object after, calls = before ++ .insert key (.ok object) :: after ∧
      (u.run before).cache.lookup key = none := by
  induction calls generalizing u with
  | nil => exact absurd seen unseen
  | cons call calls ih =>
    by_cases later : key ∈ (u.next call).cache.keys
    · -- The first call has made it.
      obtain ⟨other, object, rfl, missing, after⟩ | ⟨index, -⟩ := u.next_cases call
      · rw [after, ObjectCache.keys_push, List.mem_append, List.mem_singleton] at later
        obtain rfl := later.resolve_left unseen
        exact ⟨[], object, calls, rfl, missing⟩
      · rw [ObjectCache.keys, index] at later
        exact absurd later unseen
    · obtain ⟨before, object, after, rfl, missing⟩ := ih later seen
      exact ⟨call :: before, object, after, rfl, missing⟩

/-! ## From an empty cache on -/

/-- What holds after any calls to a cache that was empty. -/
structure Faithful (calls : List (CacheCall κ α)) : Prop where
  /-- No two descriptions share a handle. -/
  injective : ∀ {key key' : κ} {handle : CacheHandle},
    (run {} calls).cache.lookup key = some handle →
      (run {} calls).cache.lookup key' = some handle → key = key'
  /-- The handles are the numbers below the number of objects. -/
  handles : ∀ handle : CacheHandle, (∃ key, (run {} calls).cache.lookup key = some handle) ↔
    handle.index.toNat < (run {} calls).cache.size
  /-- A handle stays with its description. -/
  stable : ∀ {before after : List (CacheCall κ α)} {key : κ} {handle : CacheHandle},
    calls = before ++ after → (run {} before).cache.lookup key = some handle →
      (run {} calls).cache.lookup key = some handle
  /-- Nothing is made for a description that has a handle. -/
  hit : ∀ {key : κ} {handle : CacheHandle}, (run {} calls).cache.lookup key = some handle →
    ∀ made, (run {} calls).insert key made = (.ok handle, run {} calls)
  once : ∀ key, (run {} calls).made.count key ≤ 1
  /-- A description with a handle is one that an object was made from. -/
  created : ∀ {key : κ} {handle : CacheHandle}, (run {} calls).cache.lookup key = some handle →
    ∃ before object after, calls = before ++ .insert key (.ok object) :: after ∧
      (run {} before).cache.lookup key = none
  /-- That object is behind its handle, with all that its caller did to it since. -/
  object : ∀ {before after : List (CacheCall κ α)} {key : κ} {object : α},
    calls = before ++ .insert key (.ok object) :: after →
      (run {} before).cache.lookup key = none →
        ∃ handle, ((run {} before).insert key (.ok object)).1 = .ok handle ∧
          (run {} calls).cache.lookup key = some handle ∧
          (run {} calls).cache.get? handle =
            some (after.foldl (fun object call => call.edit handle object) object)
  /-- A creation that fails leaves the cache as it is. -/
  failed : ∀ {key : κ}, (run {} calls).cache.lookup key = none → ∀ e,
    ((run {} calls).insert key (.error e)).1 = .error e ∧
      ((run {} calls).insert key (.error e)).2.cache = (run {} calls).cache

theorem sound_run (calls : List (CacheCall κ α)) : (run {} calls).Sound :=
  Sound.run ⟨ObjectCache.indexed_empty, rfl⟩ calls

theorem size_run_le (before after : List (CacheCall κ α)) :
    (run {} before).cache.size ≤ (run {} (before ++ after)).cache.size := by
  rw [← (sound_run before).indexed.length_keys, ← (sound_run _).indexed.length_keys, run_append]
  simpa [ObjectCache.keys] using ((run {} before).index_run after).length_le

theorem size_run_le_asked (calls : List (CacheCall κ α)) :
    (run {} calls).cache.size ≤ (calls.filterMap CacheCall.asks?).dedup.length := by
  have sound := (sound_run calls).indexed
  have asked : (run {} calls).cache.keys ⊆ (calls.filterMap CacheCall.asks?).dedup :=
    fun key seen => List.mem_dedup.2 (keys_run {} calls seen)
  rw [← sound.length_keys]
  exact (sound.distinct.subperm asked).length_le

/-- Descriptions and handles stand for each other as long as there are fewer descriptions than
handles. -/
theorem faithful (calls : List (CacheCall κ α))
    (few : (calls.filterMap CacheCall.asks?).dedup.length < UInt32.size) : Faithful calls := by
  have sound := sound_run calls
  have small : (run {} calls).cache.size < UInt32.size :=
    Nat.lt_of_le_of_lt (size_run_le_asked calls) few
  have position {key : κ} {handle : CacheHandle} : (run {} calls).cache.lookup key = some handle ↔
      (run {} calls).cache.keys[handle.index.toNat]? = some key :=
    sound.indexed.lookup_eq_some_iff (Nat.le_of_lt small)
  have stable {before after : List (CacheCall κ α)} {key : κ} {handle : CacheHandle}
      (parts : calls = before ++ after) (found : (run {} before).cache.lookup key = some handle) :
      (run {} calls).cache.lookup key = some handle := by
    rw [parts, run_append]
    exact ObjectCache.lookup_of_prefix (index_run _ after) found
  refine ⟨?_, ?_, stable, fun found => insert_of_some found, ?_, ?_, ?_, ?_⟩
  · intro key key' handle found found'
    exact Option.some.inj ((position.1 found).symm.trans (position.1 found'))
  · intro handle
    simp only [position]
    rw [← sound.indexed.length_keys]
    exact ⟨fun ⟨_, at_⟩ => (List.getElem?_eq_some_iff.1 at_).1, fun there =>
      ⟨_, List.getElem?_eq_getElem there⟩⟩
  · intro key
    rw [sound.made]
    exact List.nodup_iff_count_le_one.1 sound.indexed.distinct key
  · intro key handle found
    refine made_of_mem_keys calls List.not_mem_nil ?_
    exact List.mem_map_of_mem (ObjectCache.mem_of_lookup found)
  · rintro before after key object rfl unseen
    rw [run_append]
    exact run_insert unseen (Nat.lt_of_le_of_lt (size_run_le before _) small) object after
  · intro key unseen e
    rw [insert_error_of_none unseen e]
    exact ⟨rfl, rfl⟩

end CacheUse

end DeviceLayer
