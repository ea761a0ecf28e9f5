import DeviceLayer.Named

/-!
# Submissions

Bookkeeping for command buffers and the descriptor sets they hold. A buffer that was queued is in
flight until its fence has been waited for; what is handed back before that stays pending.

* `SubmissionTracker.acquire?`, `markSubmitted?`, `release` — a buffer's way through the tracker.
* `SubmissionTracker.syncWith` — the one place where pending buffers and sets become free.
-/

namespace DeviceLayer

/-- Command buffers of type `β` that hold sets of type `σ` and are watched by fences of type `φ`. -/
structure SubmissionTracker (β σ φ : Type) where
  /-- Buffers ready for use, the one freed last in front. -/
  free : List β := []
  /-- Queued buffers with their fences, in order of submission. -/
  inFlight : List (β × φ) := []
  /-- Buffers handed back before their fence, the last one in front. -/
  pendingBuffers : List β := []
  /-- Sets handed back before their buffer's fence, in order. -/
  pendingSets : List σ := []

/-- How many of each a tracker holds. -/
structure SubmissionStats where
  freeBuffers : Nat
  inFlight : Nat
  pendingBuffers : Nat
  pendingSets : Nat
  deriving DecidableEq

namespace SubmissionTracker

variable {β σ φ : Type}

/-- A free buffer, if there is one. -/
def acquire? (t : SubmissionTracker β σ φ) : Option (β × SubmissionTracker β σ φ) :=
  match t.free with
  | buffer :: rest => some (buffer, { t with free := rest })
  | [] => none

def isInFlight [DecidableEq β] (t : SubmissionTracker β σ φ) (buffer : β) : Bool :=
  t.inFlight.any fun e => decide (e.1 = buffer)

/-- Notes that a buffer was queued; `none` when it is in flight already. -/
def markSubmitted? [DecidableEq β] (t : SubmissionTracker β σ φ) (buffer : β) (fence : φ) :
    Option (SubmissionTracker β σ φ) :=
  if t.isInFlight buffer then none
  else some { t with inFlight := t.inFlight ++ [(buffer, fence)] }

/-- Takes a buffer and its sets back. The sets of a buffer that is not in flight can be reused at
once and are returned; the others wait for the next synchronisation. -/
def release [DecidableEq β] (t : SubmissionTracker β σ φ) (buffer : β) (sets : List σ) :
    List σ × SubmissionTracker β σ φ :=
  if t.isInFlight buffer then
    ([], { t with
      pendingBuffers := buffer :: t.pendingBuffers, pendingSets := t.pendingSets ++ sets })
  else (sets, { t with free := buffer :: t.free })

/-- The tracker after every wait has succeeded. -/
def reclaimed (t : SubmissionTracker β σ φ) : SubmissionTracker β σ φ :=
  { free := t.pendingBuffers ++ t.free, inFlight := [], pendingBuffers := [], pendingSets := [] }

/-- Waits for every fence in order of submission, then frees what was pending and returns the
sets that may be reused. A wait that fails ends the synchronisation with nothing freed. -/
def syncWith {m : Type → Type} [Monad m] (t : SubmissionTracker β σ φ) (wait : φ → m Unit) :
    m (List σ × SubmissionTracker β σ φ) := do
  t.inFlight.forM fun e => wait e.2
  pure (t.pendingSets, t.reclaimed)

def stats (t : SubmissionTracker β σ φ) : SubmissionStats :=
  ⟨t.free.length, t.inFlight.length, t.pendingBuffers.length, t.pendingSets.length⟩

/-- A buffer that is handed back idle is the next one given out. -/
theorem acquire?_release [DecidableEq β] {t : SubmissionTracker β σ φ} {buffer : β}
    (idle : t.isInFlight buffer = false) (sets : List σ) :
    (t.release buffer sets).2.acquire? = some (buffer, t) := by
  simp [release, idle, acquire?]

/-- A buffer that is handed back in flight is not given out before the next synchronisation. -/
theorem free_release [DecidableEq β] {t : SubmissionTracker β σ φ} {buffer : β}
    (busy : t.isInFlight buffer = true) (sets : List σ) :
    (t.release buffer sets).2.free = t.free := by
  simp [release, busy]

end SubmissionTracker

end DeviceLayer
