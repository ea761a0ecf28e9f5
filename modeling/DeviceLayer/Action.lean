import DeviceLayer.Fault

/-!
# Actions

An operation reads and changes a state and may stop with a fault. It keeps what it had changed
until then: a fault does not undo.

* `Action σ α` — such an operation on a state `σ`.
* `Action.within` — an operation on a part of the state, run on the whole.
* `Action.check` — a pure computation that may fail.
* `Action.times` — an operation over and over, up to the first fault.
* `alignDown`, `alignUp` — the copy granularity of native buffers.
-/

namespace DeviceLayer

/-- An operation on a state that may stop with a fault and keeps its changes if it does. -/
abbrev Action (σ : Type) := EStateM Fault σ

namespace Action

variable {σ τ α : Type}

/-- Stops because the caller broke a rule. -/
def refuse (cause : Precondition) : Action σ α := throw (.device (.precondition cause))

/-- Stops because something bounded is full. -/
def exhausted (limit : Limit) : Action σ α := throw (.device (.resourceLimit limit))

/-- Stops because a native call failed. -/
def backend (failure : BackendFailure) : Action σ α := throw (.device (.backend failure))

/-- Goes on only if the rule holds. -/
def require (holds : Bool) (cause : Precondition) : Action σ Unit :=
  if holds then pure () else refuse cause

/-- Goes on only if the assertion holds. -/
def assert (holds : Bool) (failed : Assertion) : Action σ Unit :=
  if holds then pure () else throw (.assertion failed)

/-- The value, or a refusal when there is none. -/
def orRefuse (value : Option α) (cause : Precondition) : Action σ α :=
  match value with
  | some a => pure a
  | none => refuse cause

/-- A pure computation that may fail. -/
def check (result : Except Fault α) : Action σ α :=
  match result with
  | .ok a => pure a
  | .error e => throw e

/-- A pure computation that may break a rule. -/
def checked (result : Except DeviceError α) : Action σ α :=
  match result with
  | .ok a => pure a
  | .error e => throw (.device e)

/-- An action on a part of the state, with the part put back also after a fault. -/
def within (part : σ → τ) (put : τ → σ → σ) (action : Action τ α) : Action σ α := fun s =>
  match action (part s) with
  | .ok a t => .ok a (put t s)
  | .error e t => .error e (put t s)

/-- Runs an action and keeps its changes, the fault becoming a value. -/
def outcome (action : Action σ α) (s : σ) : Except Fault α × σ :=
  match action s with
  | .ok a t => (.ok a, t)
  | .error e t => (.error e, t)

/-- Runs an action so many times, up to the first fault. -/
def times (n : Nat) (action : Action σ Unit) : Action σ Unit := fun s =>
  match n with
  | 0 => .ok () s
  | n + 1 =>
    match action s with
    | .ok () s => times n action s
    | .error e s => .error e s

/-- Runs an action for its changes alone. -/
def settle (action : Action σ α) : Action σ Unit := fun s => .ok () (action.outcome s).2

end Action

/-! ## Word arithmetic and alignment -/

/-- The sum of two words, unless it leaves the word. -/
def addWords (a b : Nat) : Except Fault Nat :=
  if a + b ≤ maxWord then .ok (a + b) else .error (.assertion (.overflow .add))

/-- The product of two words, unless it leaves the word. -/
def mulWords (a b : Nat) : Except Fault Nat :=
  if a * b ≤ maxWord then .ok (a * b) else .error (.assertion (.overflow .multiply))

/-- The next number of a 32-bit counter and the counter after it, unless the counter is at its
end. -/
def takeNumber (counter : UInt32) : Except Fault (UInt32 × UInt32) :=
  if counter = 0xFFFFFFFF then .error (.assertion (.overflow .add)) else .ok (counter, counter + 1)

/-- Native copies move whole groups of this many bytes. -/
def copyAlignment : Nat := 4

/-- Whether native copies can begin or end here. -/
def isAligned (n : Nat) : Bool := n % copyAlignment = 0

/-- The last copy boundary at or before `n`. -/
def alignDown (n : Nat) : Nat := n / copyAlignment * copyAlignment

/-- The first copy boundary at or after `n`, unless it leaves the word. -/
def alignUp (n : Nat) : Except Fault Nat :=
  mulWords ((n + (copyAlignment - 1)) / copyAlignment) copyAlignment

theorem alignDown_le (n : Nat) : alignDown n ≤ n := by
  simp only [alignDown, copyAlignment]; omega

theorem isAligned_alignDown (n : Nat) : isAligned (alignDown n) = true := by
  simp [isAligned, alignDown, copyAlignment]

/-- When the boundary exists it is the least one that is not before `n`. -/
theorem alignUp_eq_ok {n m : Nat} (h : alignUp n = .ok m) :
    n ≤ m ∧ m < n + copyAlignment ∧ isAligned m = true ∧ m ≤ maxWord := by
  simp only [alignUp, mulWords] at h
  split at h
  · rename_i hle
    cases h
    simp only [isAligned, copyAlignment] at *
    refine ⟨by omega, by omega, by simp, hle⟩
  · cases h

theorem alignUp_of_le {n : Nat} (h : n + copyAlignment ≤ maxWord + 1) :
    alignUp n = .ok ((n + 3) / 4 * 4) := by
  have hn : (n + 3) / 4 * 4 ≤ maxWord := by
    simp only [copyAlignment] at h
    omega
  exact if_pos hn

end DeviceLayer
