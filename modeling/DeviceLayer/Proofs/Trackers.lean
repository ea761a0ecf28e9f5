import DeviceLayer.Proofs.Actions
import DeviceLayer.Submission
import Mathlib.Data.List.Basic

/-!
# Runs of a tracker

A tracker is asked for buffers, told which of them were queued, given them back and told to wait.
All that it answers is written down, and what was written down tells where each buffer and each set
has to be: the four lists of the tracker are compared with that.

* `TrackerCall`, `TrackerEvent` — what is asked of a tracker, and what is written down of it.
* `TrackerAccount` — where everything is, as the events tell it.
* `Waits` — waits in order, up to the first that fails.
* `TrackerUse.Kept` — the invariant: the tracker agrees with the account, and every event is right.
* `TrackerUse.tracker_accounts` — what follows for every run.
-/

namespace DeviceLayer

open DeviceLayer.Action

/-- What is asked of a tracker. The world outside is an `ω`. -/
inductive TrackerCall (β σ φ ω : Type) where
  /-- A buffer is wanted. If none is free, this is the one that is made. -/
  | acquire (fresh : β)
  | mark (buffer : β) (fence : φ)
  | release (buffer : β) (sets : List σ)
  | sync (wait : φ → Action ω Unit)

/-- What is written down of a call. -/
inductive TrackerEvent (β σ φ : Type) where
  | acquired (buffer : β)
  | marked (buffer : β) (fence : φ)
  /-- It was to be marked, but is in flight already. -/
  | refused (buffer : β)
  | released (buffer : β) (sets returned : List σ)
  /-- The fences that were waited for, and the sets that came back. -/
  | synced (waited : List φ) (returned : List σ)
  /-- The fences that were waited for, the last one of them without success. -/
  | failed (waited : List φ) (fault : Fault)

variable {β σ φ ω : Type}

/-! ## Waiting -/

/-- Waits for fences in order, up to the first that fails: which of them were waited for, how that
ended, and the world after it. -/
inductive Waits (wait : φ → Action ω Unit) : List φ → ω → List φ → Option Fault → ω → Prop where
  | done (s : ω) : Waits wait [] s [] none s
  | stopped {fence : φ} {rest : List φ} {s t : ω} {e : Fault}
      (fails : (wait fence).outcome s = (.error e, t)) :
      Waits wait (fence :: rest) s [fence] (some e) t
  | next {fence : φ} {rest waited : List φ} {s t u : ω} {fault : Option Fault}
      (succeeds : (wait fence).outcome s = (.ok (), t)) (later : Waits wait rest t waited fault u) :
      Waits wait (fence :: rest) s (fence :: waited) fault u

namespace Waits

variable {wait : φ → Action ω Unit} {fences waited : List φ} {fault : Option Fault} {s t : ω}

theorem isPrefix (h : Waits wait fences s waited fault t) : waited <+: fences := by
  induction h with
  | done => exact List.prefix_rfl
  | stopped => exact List.prefix_append [_] _
  | next _ _ ih => exact (List.prefix_cons_inj _).2 ih

/-- Waits that all succeed are for every fence. -/
theorem eq_of_none (h : Waits wait fences s waited fault t) (fine : fault = none) :
    waited = fences := by
  induction h with
  | done => rfl
  | stopped => cases fine
  | next _ _ ih => exact congrArg _ (ih fine)

theorem ne_nil_of_some (h : Waits wait fences s waited fault t) {e : Fault}
    (stopped : fault = some e) : waited ≠ [] := by
  cases h with
  | done => cases stopped
  | stopped => exact List.cons_ne_nil _ _
  | next => exact List.cons_ne_nil _ _

end Waits

/-- A wait that is written down. -/
def watched (wait : φ → Action ω Unit) (fence : φ) : Action (ω × List φ) Unit := fun (s, waited) =>
  match wait fence s with
  | .ok () t => .ok () (t, waited ++ [fence])
  | .error e t => .error e (t, waited ++ [fence])

/-- The waits of a synchronisation are those for its fences, in order. -/
theorem waits_forM (wait : φ → Action ω Unit) (entries : List (β × φ)) (s : ω) (sooner : List φ) :
    ∃ waited fault t, Waits wait (entries.map (·.2)) s waited fault t ∧
      outcome (entries.forM fun e => watched wait e.2) (s, sooner) =
        ((match fault with
          | none => .ok ⟨⟩
          | some e => .error e), t, sooner ++ waited) := by
  induction entries generalizing s sooner with
  | nil => exact ⟨[], none, s, .done s, by rw [List.append_nil]; rfl⟩
  | cons e entries ih =>
    have goes : outcome ((e :: entries).forM fun e => watched wait e.2) (s, sooner) = _ :=
      outcome_bind (watched wait e.2) (fun _ => entries.forM fun e => watched wait e.2) _
    rw [goes]
    cases ended : wait e.2 s with
    | error fault t =>
      refine ⟨[e.2], some fault, t, .stopped (by rw [outcome, ended]), ?_⟩
      simp only [outcome, watched, ended]
    | ok _ t =>
      obtain ⟨waited, fault, u, later, rest⟩ := ih t (sooner ++ [e.2])
      refine ⟨e.2 :: waited, fault, u, .next (by rw [outcome, ended]) later, ?_⟩
      have first : outcome (watched wait e.2) (s, sooner) = (.ok (), t, sooner ++ [e.2]) := by
        simp only [outcome, watched, ended]
      rw [first]
      exact rest.trans (by rw [List.append_assoc]; rfl)

/-! ## Accounts -/

/-- Where buffers and sets are, as events tell it. -/
structure TrackerAccount (β σ φ : Type) where
  /-- The buffers that there are. -/
  made : List β := []
  /-- Those that were handed out and not given back. -/
  held : List β := []
  /-- Those that were in flight when they were given back, the last one in front. -/
  pending : List β := []
  /-- What was marked since the last synchronisation that succeeded, in order. -/
  inFlight : List (β × φ) := []
  /-- The sets that were given back with the pending buffers, in order. -/
  owed : List σ := []
  given : List σ := []
  returned : List σ := []

namespace TrackerAccount

/-- The buffers that were queued and not waited for. -/
def queued (a : TrackerAccount β σ φ) : List β := a.inFlight.map (·.1)

variable [DecidableEq β]

def add (a : TrackerAccount β σ φ) : TrackerEvent β σ φ → TrackerAccount β σ φ
  | .acquired buffer => { a with made := a.made.insert buffer, held := buffer :: a.held }
  | .marked buffer fence => { a with inFlight := a.inFlight ++ [(buffer, fence)] }
  | .refused _ | .failed .. => a
  | .released buffer sets returned =>
    let a := { a with
      held := a.held.erase buffer
      given := a.given ++ sets
      returned := a.returned ++ returned }
    if buffer ∈ a.queued then { a with pending := buffer :: a.pending, owed := a.owed ++ sets }
    else a
  | .synced _ returned =>
    { a with pending := [], inFlight := [], owed := [], returned := a.returned ++ returned }

def ofLog (log : List (TrackerEvent β σ φ)) : TrackerAccount β σ φ := log.foldl add {}

theorem ofLog_append_singleton (log : List (TrackerEvent β σ φ)) (event : TrackerEvent β σ φ) :
    ofLog (log ++ [event]) = (ofLog log).add event := by
  rw [ofLog, List.foldl_append]
  rfl

/-- What an event has to be, by the account of those before it. Sets of a buffer that is in flight
come back with the next synchronisation that succeeds, and in no other way. -/
def Right (a : TrackerAccount β σ φ) : TrackerEvent β σ φ → Prop
  | .acquired buffer => buffer ∉ a.held ∧ buffer ∉ a.pending ∧ buffer ∉ a.queued
  | .marked buffer _ => buffer ∉ a.queued
  | .refused buffer => buffer ∈ a.queued
  | .released buffer sets returned => returned = if buffer ∈ a.queued then [] else sets
  | .synced waited returned => waited = a.inFlight.map (·.2) ∧ returned = a.owed
  | .failed waited _ => waited ≠ [] ∧ waited <+: a.inFlight.map (·.2)

end TrackerAccount

/-! ## Runs -/

/-- A tracker, the world that it waits in, and what was written down. -/
structure TrackerUse (β σ φ ω : Type) where
  tracker : SubmissionTracker β σ φ := {}
  world : ω
  log : List (TrackerEvent β σ φ) := []

namespace TrackerUse

variable [DecidableEq β] {u : TrackerUse β σ φ ω}

def account (u : TrackerUse β σ φ ω) : TrackerAccount β σ φ := .ofLog u.log

/-- Has the tracker as it is by now, and the event written down. -/
def note (u : TrackerUse β σ φ ω) (tracker : SubmissionTracker β σ φ)
    (event : TrackerEvent β σ φ) : TrackerUse β σ φ ω :=
  { u with tracker := tracker, log := u.log ++ [event] }

def step (u : TrackerUse β σ φ ω) : TrackerCall β σ φ ω → TrackerUse β σ φ ω
  | .acquire fresh =>
    match u.tracker.acquire? with
    | some (buffer, tracker) => u.note tracker (.acquired buffer)
    | none => u.note u.tracker (.acquired fresh)
  | .mark buffer fence =>
    match u.tracker.markSubmitted? buffer fence with
    | some tracker => u.note tracker (.marked buffer fence)
    | none => u.note u.tracker (.refused buffer)
  | .release buffer sets =>
    let (returned, tracker) := u.tracker.release buffer sets
    u.note tracker (.released buffer sets returned)
  | .sync wait =>
    match outcome (u.tracker.syncWith (watched wait)) (u.world, []) with
    | (.ok (sets, tracker), world, waited) =>
      { u with world := world }.note tracker (.synced waited sets)
    | (.error e, world, waited) => { u with world := world }.note u.tracker (.failed waited e)

/-- A buffer that is made is new, and only buffers that are held are marked or given back. -/
def Allows (u : TrackerUse β σ φ ω) : TrackerCall β σ φ ω → Prop
  | .acquire fresh => u.tracker.free = [] → fresh ∉ u.account.made
  | .mark buffer _ | .release buffer _ => buffer ∈ u.account.held
  | .sync _ => True

def AllowsAll (u : TrackerUse β σ φ ω) : List (TrackerCall β σ φ ω) → Prop
  | [] => True
  | call :: calls => u.Allows call ∧ (u.step call).AllowsAll calls

def run (u : TrackerUse β σ φ ω) (calls : List (TrackerCall β σ φ ω)) : TrackerUse β σ φ ω :=
  calls.foldl step u

/-! ## The invariant -/

/-- The tracker agrees with the account, in which nothing is lost and nothing is in two places. -/
structure Kept (u : TrackerUse β σ φ ω) : Prop where
  inFlight : u.tracker.inFlight = u.account.inFlight
  pendingBuffers : u.tracker.pendingBuffers = u.account.pending
  pendingSets : u.tracker.pendingSets = u.account.owed
  buffers : ∀ b, (u.account.held ++ u.tracker.free ++ u.tracker.pendingBuffers).count b =
    if b ∈ u.account.made then 1 else 0
  /-- What is in flight is not free. -/
  queued : ∀ b ∈ u.account.queued, b ∈ u.account.held ∨ b ∈ u.account.pending
  sets : u.account.given.Perm (u.account.returned ++ u.account.owed)

namespace Kept

theorem isInFlight (h : u.Kept) (b : β) :
    u.tracker.isInFlight b = decide (b ∈ u.account.queued) := by
  rw [Bool.eq_iff_iff, SubmissionTracker.isInFlight, h.inFlight]
  simp only [TrackerAccount.queued, List.any_eq_true, List.mem_map, decide_eq_true_eq]

/-- A free buffer is nowhere else. -/
theorem free_apart (h : u.Kept) {b : β} (free : b ∈ u.tracker.free) :
    b ∈ u.account.made ∧ b ∉ u.account.held ∧ b ∉ u.account.pending := by
  have counted := h.buffers b
  have once := List.count_pos_iff.2 free
  rw [← h.pendingBuffers]
  simp only [List.count_append] at counted
  split at counted
  · rename_i made
    exact ⟨made, List.count_eq_zero.1 (by omega), List.count_eq_zero.1 (by omega)⟩
  · omega

/-- A buffer that was never made is nowhere. -/
theorem fresh_apart (h : u.Kept) {b : β} (fresh : b ∉ u.account.made) :
    b ∉ u.account.held ∧ b ∉ u.account.pending := by
  have counted := h.buffers b
  rw [if_neg fresh] at counted
  rw [← h.pendingBuffers]
  simp only [List.count_append] at counted
  exact ⟨List.count_eq_zero.1 (by omega), List.count_eq_zero.1 (by omega)⟩

end Kept

theorem kept_new (world : ω) : Kept ({ world } : TrackerUse β σ φ ω) where
  inFlight := rfl
  pendingBuffers := rfl
  pendingSets := rfl
  buffers _ := rfl
  queued := nofun
  sets := .refl _

/-- What is noted is added to the account. -/
theorem account_note (u : TrackerUse β σ φ ω) (tracker : SubmissionTracker β σ φ)
    (event : TrackerEvent β σ φ) : (u.note tracker event).account = u.account.add event :=
  TrackerAccount.ofLog_append_singleton u.log event

/-- The use goes on by an event, which is right, and the tracker agrees with the account again. -/
structure Goes (u u' : TrackerUse β σ φ ω) : Prop where
  noted : ∃ event, u'.log = u.log ++ [event] ∧ u.account.Right event
  kept : u'.Kept

/-- A buffer that is handed out was free, or is new. -/
theorem Kept.acquired (h : u.Kept) {buffer : β} {free : List β}
    (moved : ∀ b, free.count b + (if b = buffer then 1 else 0) +
        (if b ∈ u.account.made then 1 else 0) =
      u.tracker.free.count b + if b = buffer ∨ b ∈ u.account.made then 1 else 0) :
    (u.note { u.tracker with free := free } (.acquired buffer)).Kept where
  inFlight := by rw [account_note]; exact h.inFlight
  pendingBuffers := by rw [account_note]; exact h.pendingBuffers
  pendingSets := by rw [account_note]; exact h.pendingSets
  buffers b := by
    have before := h.buffers b
    have change := moved b
    rw [account_note]
    simp only [TrackerAccount.add, note, List.mem_insert_iff, List.count_append, List.count_cons,
      beq_iff_eq, eq_comm (a := buffer)] at before change ⊢
    omega
  queued b busy := by
    rw [account_note] at busy ⊢
    exact (h.queued b busy).imp_left (List.mem_cons_of_mem _)
  sets := by rw [account_note]; exact h.sets

theorem goes_acquire (h : u.Kept) {fresh : β} (new : u.tracker.free = [] → fresh ∉ u.account.made) :
    u.Goes (u.step (.acquire fresh)) := by
  have right {buffer : β} (held : buffer ∉ u.account.held) (pending : buffer ∉ u.account.pending) :
      u.account.Right (.acquired buffer) :=
    ⟨held, pending, fun busy => (h.queued buffer busy).elim held pending⟩
  cases free : u.tracker.free with
  | cons buffer rest =>
    obtain ⟨made, held, pending⟩ := h.free_apart (b := buffer) (by simp [free])
    have took : u.step (.acquire fresh) =
        u.note { u.tracker with free := rest } (.acquired buffer) := by
      simp only [step, SubmissionTracker.acquire?, free]
    rw [took]
    refine ⟨⟨_, rfl, right held pending⟩, h.acquired fun b => ?_⟩
    by_cases same : b = buffer
    · simp [free, same, made]
    · simp [free, same, Ne.symm same]
  | nil =>
    obtain ⟨held, pending⟩ := h.fresh_apart (new free)
    have made : u.step (.acquire fresh) =
        u.note { u.tracker with free := [] } (.acquired fresh) := by
      simp only [step, SubmissionTracker.acquire?, free]
      rw [← free]
    rw [made]
    refine ⟨⟨_, rfl, right held pending⟩, h.acquired fun b => ?_⟩
    by_cases same : b = fresh
    · simp [free, same, new free]
    · simp [free, same]

theorem goes_mark (h : u.Kept) {buffer : β} (held : buffer ∈ u.account.held) (fence : φ) :
    u.Goes (u.step (.mark buffer fence)) := by
  have known := h.isInFlight buffer
  by_cases busy : buffer ∈ u.account.queued
  · have refused : u.step (.mark buffer fence) = u.note u.tracker (.refused buffer) := by
      simp only [step, SubmissionTracker.markSubmitted?, known, busy, decide_true, if_true]
    rw [refused]
    refine ⟨⟨_, rfl, busy⟩, ?_⟩
    have same : (u.note u.tracker (.refused buffer)).account = u.account := account_note _ _ _
    constructor <;> rw [same]
    exacts [h.inFlight, h.pendingBuffers, h.pendingSets, h.buffers, h.queued, h.sets]
  · have marked : u.step (.mark buffer fence) =
        u.note { u.tracker with inFlight := u.tracker.inFlight ++ [(buffer, fence)] }
          (.marked buffer fence) := by
      simp only [step, SubmissionTracker.markSubmitted?, known, busy, decide_false,
        Bool.false_eq_true, if_false]
    rw [marked]
    refine ⟨⟨_, rfl, busy⟩, ?_⟩
    constructor <;> rw [account_note]
    · exact congrArg (· ++ [(buffer, fence)]) h.inFlight
    · exact h.pendingBuffers
    · exact h.pendingSets
    · exact h.buffers
    · intro b queued
      simp only [TrackerAccount.queued, TrackerAccount.add, List.map_append, List.mem_append,
        List.map_cons, List.map_nil, List.mem_singleton] at queued
      rcases queued with sooner | rfl
      · exact h.queued b sooner
      · exact .inl held
    · exact h.sets

/-- What is given back was held once more than it is held then. -/
theorem count_erase_held {held : List β} {buffer : β} (there : buffer ∈ held) (b : β) :
    (held.erase buffer).count b + (if buffer = b then 1 else 0) = held.count b := by
  rw [(List.perm_cons_erase there).count_eq b, List.count_cons]
  simp only [beq_iff_eq]

theorem mem_erase_or_eq {held : List β} {b : β} (there : b ∈ held) (buffer : β) :
    b ∈ held.erase buffer ∨ b = buffer := by
  by_cases same : b = buffer
  · exact .inr same
  · exact .inl ((List.mem_erase_of_ne same).2 there)

/-- The buffer and its sets wait for the next synchronisation. -/
theorem goes_release_queued (h : u.Kept) {buffer : β} (held : buffer ∈ u.account.held)
    (busy : buffer ∈ u.account.queued) (sets : List σ) :
    u.Goes (u.step (.release buffer sets)) := by
  have known := h.isInFlight buffer
  have released : u.step (.release buffer sets) = u.note { u.tracker with
      pendingBuffers := buffer :: u.tracker.pendingBuffers
      pendingSets := u.tracker.pendingSets ++ sets } (.released buffer sets []) := by
    simp only [step, SubmissionTracker.release, known, busy, decide_true, if_true]
  have account : (u.note { u.tracker with
      pendingBuffers := buffer :: u.tracker.pendingBuffers
      pendingSets := u.tracker.pendingSets ++ sets } (.released buffer sets [])).account =
      { u.account with
        held := u.account.held.erase buffer
        given := u.account.given ++ sets
        pending := buffer :: u.account.pending
        owed := u.account.owed ++ sets } := by
    rw [account_note, TrackerAccount.add, List.append_nil]
    exact if_pos busy
  rw [released]
  refine ⟨⟨_, rfl, (if_pos busy).symm⟩, ?_⟩
  constructor <;> rw [account]
  · exact h.inFlight
  · exact congrArg (buffer :: ·) h.pendingBuffers
  · exact congrArg (· ++ sets) h.pendingSets
  · intro b
    refine Eq.trans ?_ (h.buffers b)
    have change := count_erase_held held b
    simp only [note, List.count_append, List.count_cons, beq_iff_eq]
    omega
  · intro b queued
    rcases h.queued b queued with there | there
    · refine (mem_erase_or_eq there buffer).imp_right fun same => ?_
      subst same
      exact List.mem_cons_self
    · exact .inr (List.mem_cons_of_mem _ there)
  · rw [← List.append_assoc]
    exact h.sets.append_right sets

/-- The buffer is free again, and its sets go back at once. -/
theorem goes_release_idle (h : u.Kept) {buffer : β} (held : buffer ∈ u.account.held)
    (idle : buffer ∉ u.account.queued) (sets : List σ) :
    u.Goes (u.step (.release buffer sets)) := by
  have known := h.isInFlight buffer
  have released : u.step (.release buffer sets) = u.note { u.tracker with
      free := buffer :: u.tracker.free } (.released buffer sets sets) := by
    simp only [step, SubmissionTracker.release, known, idle, decide_false, Bool.false_eq_true,
      if_false]
  have account : (u.note { u.tracker with
      free := buffer :: u.tracker.free } (.released buffer sets sets)).account =
      { u.account with
        held := u.account.held.erase buffer
        given := u.account.given ++ sets
        returned := u.account.returned ++ sets } := by
    rw [account_note, TrackerAccount.add]
    exact if_neg idle
  rw [released]
  refine ⟨⟨_, rfl, (if_neg idle).symm⟩, ?_⟩
  constructor <;> rw [account]
  · exact h.inFlight
  · exact h.pendingBuffers
  · exact h.pendingSets
  · intro b
    refine Eq.trans ?_ (h.buffers b)
    have change := count_erase_held held b
    simp only [note, List.count_append, List.count_cons, beq_iff_eq]
    omega
  · intro b queued
    rcases h.queued b queued with there | there
    · refine (mem_erase_or_eq there buffer).imp_right fun same => ?_
      subst same
      exact absurd queued idle
    · exact .inr there
  · refine (h.sets.append_right sets).trans ?_
    rw [List.append_assoc, List.append_assoc]
    exact List.perm_append_comm.append_left _

theorem goes_release (h : u.Kept) {buffer : β} (held : buffer ∈ u.account.held) (sets : List σ) :
    u.Goes (u.step (.release buffer sets)) := by
  by_cases busy : buffer ∈ u.account.queued
  · exact goes_release_queued h held busy sets
  · exact goes_release_idle h held busy sets

/-- What a synchronisation comes to, by what its waits come to. -/
theorem step_sync (u : TrackerUse β σ φ ω) (wait : φ → Action ω Unit) :
    ∃ waited fault t, Waits wait (u.tracker.inFlight.map (·.2)) u.world waited fault t ∧
      u.step (.sync wait) =
        match fault with
        | none => { u with world := t }.note u.tracker.reclaimed
            (.synced waited u.tracker.pendingSets)
        | some e => { u with world := t }.note u.tracker (.failed waited e) := by
  obtain ⟨waited, fault, t, waits, ended⟩ := waits_forM wait u.tracker.inFlight u.world []
  refine ⟨waited, fault, t, waits, ?_⟩
  simp only [step, SubmissionTracker.syncWith, outcome_bind, ended]
  cases fault <;> rfl

theorem goes_sync (h : u.Kept) (wait : φ → Action ω Unit) : u.Goes (u.step (.sync wait)) := by
  obtain ⟨waited, fault, t, waits, stepped⟩ := step_sync u wait
  rw [h.inFlight] at waits
  rw [stepped]
  cases fault with
  | none =>
    refine ⟨⟨_, rfl, waits.eq_of_none rfl, h.pendingSets⟩, ?_⟩
    have account : ({ u with world := t }.note u.tracker.reclaimed
        (.synced waited u.tracker.pendingSets)).account = _ := account_note _ _ _
    constructor <;> rw [account]
    · rfl
    · rfl
    · rfl
    · intro b
      refine Eq.trans ?_ (h.buffers b)
      simp only [note, TrackerAccount.add, SubmissionTracker.reclaimed, List.count_append,
        List.count_nil]
      change u.account.held.count b + _ + 0 = _
      omega
    · nofun
    · refine h.sets.trans ?_
      rw [h.pendingSets]
      exact (List.append_nil _).symm ▸ .refl _
  | some e =>
    refine ⟨⟨_, rfl, waits.ne_nil_of_some rfl, waits.isPrefix⟩, ?_⟩
    have same : ({ u with world := t }.note u.tracker (.failed waited e)).account = u.account :=
      account_note _ _ _
    constructor <;> rw [same]
    exacts [h.inFlight, h.pendingBuffers, h.pendingSets, h.buffers, h.queued, h.sets]

theorem goes (h : u.Kept) {call : TrackerCall β σ φ ω} (allowed : u.Allows call) :
    u.Goes (u.step call) := by
  cases call with
  | acquire fresh => exact goes_acquire h allowed
  | mark buffer fence => exact goes_mark h allowed fence
  | release buffer sets => exact goes_release h allowed sets
  | sync wait => exact goes_sync h wait

/-! ## Every run -/

/-- Every event is what it has to be, by those before it. -/
def Told (u : TrackerUse β σ φ ω) : Prop :=
  ∀ before event after, u.log = before ++ event :: after →
    (TrackerAccount.ofLog before).Right event

theorem Goes.told {u' : TrackerUse β σ φ ω} (h : u.Goes u') (told : u.Told) : u'.Told := by
  obtain ⟨new, log, right⟩ := h.noted
  intro before event after split
  rw [log] at split
  rcases List.eq_nil_or_concat after with rfl | ⟨sooner, last, rfl⟩
  · obtain ⟨rfl, same⟩ := List.append_inj' split rfl
    cases same
    exact right
  · have split : u.log ++ [new] = (before ++ event :: sooner) ++ [last] := by simpa using split
    obtain ⟨earlier, -⟩ := List.append_inj' split rfl
    exact told before event sooner earlier

theorem run_kept {calls : List (TrackerCall β σ φ ω)} (allowed : u.AllowsAll calls) (h : u.Kept)
    (told : u.Told) : (u.run calls).Kept ∧ (u.run calls).Told := by
  induction calls generalizing u with
  | nil => exact ⟨h, told⟩
  | cons call calls ih =>
    have step := goes h allowed.1
    exact ih allowed.2 step.kept (step.told told)

/-- Whatever is asked of a tracker: a buffer that is handed out is not held, pending or in flight,
and sets that are given back with a buffer in flight come back just with the next synchronisation
that succeeds. Each buffer is held, free or pending, and in one of these places only; each set that
was given back came back or is pending. A synchronisation waits for what is in flight, in the order
in which it was submitted and up to the first wait that fails; then it leaves the tracker as it was,
and otherwise nothing in flight and nothing pending. -/
theorem tracker_accounts (world : ω) {calls : List (TrackerCall β σ φ ω)}
    (allowed : ({ world } : TrackerUse β σ φ ω).AllowsAll calls) :
    let u := run ({ world } : TrackerUse β σ φ ω) calls
    u.Told ∧
      (∀ b, (u.account.held ++ u.tracker.free ++ u.tracker.pendingBuffers).count b =
        if b ∈ u.account.made then 1 else 0) ∧
      u.account.given.Perm (u.account.returned ++ u.tracker.pendingSets) ∧
      ∀ wait, ∃ waited fault t,
        Waits wait (u.account.inFlight.map (·.2)) u.world waited fault t ∧
          (u.step (.sync wait)).world = t ∧
          match fault with
          | none =>
            (u.step (.sync wait)).log = u.log ++ [.synced waited u.tracker.pendingSets] ∧
              (u.step (.sync wait)).tracker =
                { free := u.tracker.pendingBuffers ++ u.tracker.free, inFlight := [],
                  pendingBuffers := [], pendingSets := [] }
          | some e =>
            (u.step (.sync wait)).log = u.log ++ [.failed waited e] ∧
              (u.step (.sync wait)).tracker = u.tracker := by
  intro u
  have start : ({ world } : TrackerUse β σ φ ω).Told := fun _ _ _ split => by simp at split
  obtain ⟨kept, told⟩ := run_kept allowed (kept_new world) start
  refine ⟨told, kept.buffers, ?_, fun wait => ?_⟩
  · rw [kept.pendingSets]
    exact kept.sets
  · obtain ⟨waited, fault, t, waits, stepped⟩ := step_sync u wait
    rw [kept.inFlight] at waits
    refine ⟨waited, fault, t, waits, ?_⟩
    rw [stepped]
    cases fault with
    | none => exact ⟨rfl, rfl, rfl⟩
    | some e => exact ⟨rfl, rfl, rfl⟩

instance (u : TrackerUse β σ φ ω) (call : TrackerCall β σ φ ω) : Decidable (u.Allows call) :=
  match call with
  | .acquire fresh => inferInstanceAs (Decidable (u.tracker.free = [] → fresh ∉ u.account.made))
  | .mark buffer _ | .release buffer _ => inferInstanceAs (Decidable (buffer ∈ u.account.held))
  | .sync _ => isTrue trivial

instance decidableAllowsAll : (calls : List (TrackerCall β σ φ ω)) → (u : TrackerUse β σ φ ω) →
    Decidable (u.AllowsAll calls)
  | [], _ => isTrue trivial
  | call :: calls, u =>
    have := decidableAllowsAll calls (u.step call)
    inferInstanceAs (Decidable (u.Allows call ∧ (u.step call).AllowsAll calls))

/-- Waits for all fences but one. -/
def waitExcept (stuck : Nat) (fence : Nat) : Action Unit Unit :=
  if fence = stuck then throw (.device (.backend .pollTimeout)) else pure ()

/-- Two buffers are queued and the first one is given back; a wait for the second one fails, and
later all succeed. The second buffer, which is still held, is queued once more. -/
def queuedTwice : List (TrackerCall Nat Nat Nat Unit) :=
  [.acquire 7, .mark 7 1, .release 7 [100], .acquire 8, .mark 8 2, .mark 8 3, .sync (waitExcept 2),
    .sync (waitExcept 0), .mark 8 4, .release 8 [200, 201], .acquire 9]

theorem tracker_accounts_queuedTwice :
    let u := run ({ world := () } : TrackerUse Nat Nat Nat Unit) queuedTwice
    ({ world := () } : TrackerUse Nat Nat Nat Unit).AllowsAll queuedTwice ∧
      u.account.held = [7] ∧ u.tracker.pendingBuffers = [8] ∧ u.account.inFlight = [(8, 4)] ∧
      u.account.returned = [100] ∧ u.tracker.pendingSets = [200, 201] ∧
      u.Told ∧ u.account.given.Perm (u.account.returned ++ u.tracker.pendingSets) := by
  have allowed : ({ world := () } : TrackerUse Nat Nat Nat Unit).AllowsAll queuedTwice := by
    decide
  intro u
  obtain ⟨told, -, sets, -⟩ := tracker_accounts () allowed
  exact ⟨allowed, by decide, by decide, by decide, by decide, by decide, told, sets⟩

end TrackerUse

end DeviceLayer
