import DeviceLayer.DescriptorPool
import Mathlib.Data.List.Nodup
import Mathlib.Data.List.Perm.Basic

/-!
# Runs of a descriptor pool

A pool is asked for sets and given back those that are outstanding, in any order. Each set that was
ever made is then in one of two places: outstanding, or free in the pool. The count of the sets
made tells both how many there are and which one is made next.

* `PoolUse`, `PoolCall` — a pool with the sets that are outstanding, and what is asked of it.
* `PoolUse.Kept` — the invariant: what is outstanding and what is free are the sets that were made.
* `PoolUse.pool_accounts` — what follows for every run.
-/

namespace DeviceLayer

variable {σ : Type}

inductive PoolCall (σ : Type) where
  | allocate
  | recycle (set : σ)

/-- A pool, and the sets that it handed out and did not get back. -/
structure PoolUse (σ : Type) where
  pool : DescriptorPool σ
  outstanding : List σ := []

namespace PoolUse

variable {create : Nat → σ} {u : PoolUse σ} {capacity : Nat}

/-! ## The invariant -/

/-- Whatever was made is outstanding or free, and no more was made than the pool has room for. -/
structure Kept (create : Nat → σ) (capacity : Nat) (u : PoolUse σ) : Prop where
  bounded : u.pool.capacity = capacity
  room : u.pool.allocated ≤ capacity
  made : (u.outstanding ++ u.pool.free).Perm ((List.range u.pool.allocated).map create)

theorem kept_new (create : Nat → σ) (capacity : Nat) : Kept create capacity ⟨{ capacity }, []⟩ :=
  ⟨rfl, Nat.zero_le _, .nil⟩

namespace Kept

variable (kept : Kept create capacity u)

include kept

theorem length : u.outstanding.length + u.pool.free.length = u.pool.allocated := by
  simpa using kept.made.length_eq

theorem nodup (injective : create.Injective) : (u.outstanding ++ u.pool.free).Nodup :=
  kept.made.nodup_iff.2 (List.nodup_range.map injective)

/-- A new set is none that was made before, so it is not outstanding. -/
theorem not_mem_of_allocate (injective : create.Injective) {set : σ} {pool : DescriptorPool σ}
    (given : u.pool.allocate create = .ok (set, pool)) : set ∉ u.outstanding := by
  have allocates := u.pool.allocates create
  rw [given] at allocates
  cases allocates with
  | reused free =>
    intro outstanding
    have apart := List.disjoint_of_nodup_append (kept.nodup injective)
    exact apart outstanding (free ▸ List.mem_cons_self)
  | created =>
    -- Whatever is outstanding was made under a smaller number.
    intro outstanding
    have before := kept.made.subset (List.mem_append_left _ outstanding)
    obtain ⟨i, less, same⟩ := List.mem_map.1 before
    exact absurd (injective same) (Nat.ne_of_lt (List.mem_range.1 less))

theorem allocate_fails_iff :
    (∃ e, u.pool.allocate create = .error e) ↔ u.outstanding.length = capacity := by
  have length := kept.length
  have bounded := kept.bounded
  have room := kept.room
  have allocates := u.pool.allocates create
  constructor
  · rintro ⟨e, failed⟩
    rw [failed] at allocates
    cases allocates with
    | exhausted none full =>
      rw [none, List.length_nil] at length
      omega
  · intro all
    have none : u.pool.free = [] := List.eq_nil_of_length_eq_zero (by omega)
    generalize u.pool.allocate create = answer at allocates
    cases allocates with
    | reused free => cases none.symm.trans free
    | created => omega
    | exhausted => exact ⟨_, rfl⟩

end Kept

/-! ## Runs -/

variable [DecidableEq σ]

def step (create : Nat → σ) (u : PoolUse σ) : PoolCall σ → PoolUse σ
  | .allocate =>
    match u.pool.allocate create with
    | .ok (set, pool) => ⟨pool, set :: u.outstanding⟩
    | .error _ => u
  | .recycle set => ⟨u.pool.recycle set, u.outstanding.erase set⟩

/-- Only sets that are outstanding are given back. -/
def Allows (u : PoolUse σ) : PoolCall σ → Prop
  | .allocate => True
  | .recycle set => set ∈ u.outstanding

def AllowsAll (create : Nat → σ) (u : PoolUse σ) : List (PoolCall σ) → Prop
  | [] => True
  | call :: calls => u.Allows call ∧ (u.step create call).AllowsAll create calls

def run (create : Nat → σ) (u : PoolUse σ) (calls : List (PoolCall σ)) : PoolUse σ :=
  calls.foldl (step create) u

/-- A set only changes its place, and a new one has the next number. -/
theorem Kept.step (kept : Kept create capacity u) {call : PoolCall σ} (allowed : u.Allows call) :
    Kept create capacity (u.step create call) := by
  obtain ⟨bounded, room, made⟩ := kept
  cases call with
  | allocate =>
    have allocates := u.pool.allocates create
    simp only [PoolUse.step]
    generalize u.pool.allocate create = answer at allocates
    cases allocates with
    | reused free =>
      rw [free] at made
      exact ⟨bounded, room, List.perm_middle.symm.trans made⟩
    | created none under =>
      rw [none, List.append_nil] at made
      refine ⟨bounded, bounded ▸ under, ?_⟩
      rw [none, List.append_nil, List.range_succ, List.map_append]
      exact (made.cons _).trans (List.perm_append_singleton _ _).symm
    | exhausted => exact ⟨bounded, room, made⟩
  | recycle set =>
    have back : (u.outstanding.erase set ++ set :: u.pool.free).Perm
        (u.outstanding ++ u.pool.free) :=
      List.perm_middle.trans ((List.perm_cons_erase allowed).symm.append_right _)
    exact ⟨bounded, room, back.trans made⟩

theorem Kept.run (kept : Kept create capacity u) {calls : List (PoolCall σ)}
    (allowed : u.AllowsAll create calls) : Kept create capacity (u.run create calls) := by
  induction calls generalizing u with
  | nil => exact kept
  | cons call calls ih => exact ih (kept.step allowed.1) allowed.2

/-- Whatever is asked of a pool of any capacity, as long as only outstanding sets are given back:
no set is in two places, and all that were made, no more than the capacity, are outstanding or free.
A set is made when none is free, and not before. The pool gives none just when as many as its
capacity are outstanding, and then it stays as it is. Where one of these comes back, it has a set
again. -/
theorem pool_accounts (injective : create.Injective) {calls : List (PoolCall σ)}
    (allowed : AllowsAll create ⟨{ capacity }, []⟩ calls) :
    let u := run create ⟨{ capacity }, []⟩ calls
    let p := u.pool
    (u.outstanding ++ p.free).Nodup ∧
      p.allocated = u.outstanding.length + p.free.length ∧ p.allocated ≤ capacity ∧
      (∀ set p', p.allocate create = .ok (set, p') → set ∉ u.outstanding ∧
        (p'.allocated = p.allocated ∧ p.free = set :: p'.free ∨
          p.free = [] ∧ set = create p.allocated ∧ p'.allocated = p.allocated + 1)) ∧
      (p.free ≠ [] → ∀ other, p.allocate other = p.allocate create) ∧
      ((∃ e, p.allocate create = .error e) ↔ u.outstanding.length = capacity) ∧
      (∀ e, p.allocate create = .error e →
        e = .resourceLimit (.descriptorPool capacity) ∧ u.step create .allocate = u) ∧
      ∀ set ∈ u.outstanding, ∃ p', (p.recycle set).allocate create = .ok (set, p') := by
  intro u p
  have kept : Kept create capacity u := (kept_new create capacity).run allowed
  have allocates := p.allocates create
  refine ⟨kept.nodup injective, kept.length.symm, kept.room, fun set p' given => ?_, fun free => ?_,
    kept.allocate_fails_iff, fun e failed => ?_, fun set _ => ⟨p, p.allocate_recycle set create⟩⟩
  · refine ⟨kept.not_mem_of_allocate injective given, ?_⟩
    rw [given] at allocates
    cases allocates with
    | reused free => exact .inl ⟨rfl, free⟩
    | created none => exact .inr ⟨none, rfl, rfl⟩
  · intro other
    obtain ⟨set, rest, first⟩ := List.exists_cons_of_ne_nil free
    rw [DescriptorPool.allocate, DescriptorPool.allocate, first]
  · refine ⟨?_, by rw [PoolUse.step, failed]⟩
    rw [failed] at allocates
    cases allocates with
    | exhausted => rw [kept.bounded]

/-- Both of two sets are out. The first one was given back in between. -/
def lent : List (PoolCall Nat) := [.allocate, .allocate, .recycle 0, .allocate]

theorem pool_accounts_lent :
    let create : Nat → Nat := (10 * ·)
    let u := run create ⟨{ capacity := 2 }, []⟩ lent
    create.Injective ∧ AllowsAll create ⟨{ capacity := 2 }, []⟩ lent ∧ u.outstanding = [0, 10] ∧
      u.pool.allocated = 2 ∧ ∃ e, u.pool.allocate create = .error e := by
  intro create u
  have injective : create.Injective := fun _ _ same => Nat.eq_of_mul_eq_mul_left (by decide) same
  have allowed : AllowsAll create ⟨{ capacity := 2 }, []⟩ lent :=
    ⟨trivial, trivial, (by decide : 0 ∈ [10, 0]), trivial, trivial⟩
  obtain ⟨-, allocated, -, -, -, fails, -⟩ := pool_accounts injective allowed
  exact ⟨injective, allowed, rfl, allocated, fails.2 rfl⟩


end PoolUse

end DeviceLayer
