import DeviceLayer.Fault

/-!
# Descriptor pools

A pool makes sets while it is under its capacity and hands recycled sets out again, the one
recycled last first.
-/

namespace DeviceLayer

/-- Sets a pool makes unless told otherwise. -/
def defaultPoolCapacity : Nat := 1000

/-- A bounded pool of sets. -/
structure DescriptorPool (σ : Type) where
  capacity : Nat := defaultPoolCapacity
  /-- Sets made so far, in use or not. -/
  allocated : Nat := 0
  /-- Sets to hand out again, the one recycled last in front. -/
  free : List σ := []

namespace DescriptorPool

variable {σ : Type}

/-- A recycled set, or a new one while the pool is under its capacity. `create` is given the
number of sets made before. -/
def allocate (p : DescriptorPool σ) (create : Nat → σ) :
    Except DeviceError (σ × DescriptorPool σ) :=
  match p.free with
  | set :: rest => .ok (set, { p with free := rest })
  | [] =>
    if p.allocated < p.capacity then
      .ok (create p.allocated, { p with allocated := p.allocated + 1 })
    else .error (.resourceLimit (.descriptorPool p.capacity))

/-- Takes a set back. The caller promises that no pending work uses it. -/
def recycle (p : DescriptorPool σ) (set : σ) : DescriptorPool σ := { p with free := set :: p.free }

/-- What a pool that is asked for a set does. -/
inductive Allocates (create : Nat → σ) (p : DescriptorPool σ) :
    Except DeviceError (σ × DescriptorPool σ) → Prop
  | reused {set : σ} {rest : List σ} (free : p.free = set :: rest) :
      Allocates create p (.ok (set, { p with free := rest }))
  | created (none : p.free = []) (room : p.allocated < p.capacity) :
      Allocates create p (.ok (create p.allocated, { p with allocated := p.allocated + 1 }))
  | exhausted (none : p.free = []) (full : p.capacity ≤ p.allocated) :
      Allocates create p (.error (.resourceLimit (.descriptorPool p.capacity)))

theorem allocates (p : DescriptorPool σ) (create : Nat → σ) :
    Allocates create p (p.allocate create) := by
  unfold allocate
  split
  · rename_i free
    exact .reused free
  · rename_i none
    split
    · rename_i room
      exact .created none room
    · rename_i full
      exact .exhausted none (Nat.le_of_not_lt full)

theorem allocate_recycle (p : DescriptorPool σ) (set : σ) (create : Nat → σ) :
    (p.recycle set).allocate create = .ok (set, p) := rfl

end DescriptorPool

end DeviceLayer
