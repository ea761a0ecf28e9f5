import DeviceLayer.Proofs.Frames

/-!
# What becomes of a list

The ends of a list's life as single statements: all that can come of making, finalizing, queueing
and synchronising. Later proofs split on these and look into no action.

* `CommandList.closed`, `finished` — what a list is encoded from, and what is left of it.
* `Gpu.wp_newList`, `Recording.wp_finalize` — making a list, and ending its recording.
* `SubmitEnd`, `Recording.submit_ends` — queueing a list.
* `Gpu.waits_cover`, `commandSync_ends` — waiting for what is in flight, and reclaiming it.
-/

namespace DeviceLayer

open DeviceLayer.Action

/-! ## Bringing a device up -/

theorem Gpu.create_eq_ok {limits : Limits} {p q : Platform} {g : Gpu}
    (created : create limits p = .ok g q) :
    p.script.adapter.serves limits = true ∧ ∃ adapter placeholder,
      g = { connection := ⟨p.connections, limits⟩, adapter, placeholder } ∧
        q.submissions = p.submissions ∧ q.finished = p.finished ∧ q.script = p.script := by
  have made : (create limits).wp (fun g q => p.script.adapter.serves limits = true ∧
      ∃ adapter placeholder, g = { connection := ⟨p.connections, limits⟩, adapter, placeholder } ∧
        q.submissions = p.submissions ∧ q.finished = p.finished ∧ q.script = p.script)
      (fun _ _ => True) p := by
    rw [create, wp_bind, wp_get]
    cases served : p.script.adapter.serves limits with
    | false => simp
    | true =>
      simp only [Bool.not_true, Bool.false_eq_true, if_false, wp_bind, wp_modifyGet,
        Platform.wp_createBuffer, wp_get, wp_pure, implies_true, and_true]
      exact fun _ => ⟨trivial, _, _, rfl, rfl, rfl, rfl⟩
  unfold wp at made
  rw [created] at made
  exact made

/-! ## Making a list -/

/-- A new list has the free buffer in front, or else the next number. -/
theorem Gpu.wp_newList {Q : CommandList → Live Gpu → Prop} {E : Fault → Live Gpu → Prop}
    {s : Live Gpu} :
    newList.wp Q E s ↔
      match s.device.tracker.free with
      | buffer :: rest =>
        Q { buffer } { s with device.tracker := { s.device.tracker with free := rest } }
      | [] =>
        if s.device.nextCommandBuffer = 0xFFFFFFFF then E (.assertion (.overflow .add)) s
        else Q { buffer := ⟨s.device.nextCommandBuffer⟩ }
          { s with device.nextCommandBuffer := s.device.nextCommandBuffer + 1 } := by
  simp only [newList, acquireCommandBuffer, SubmissionTracker.acquire?, wp_bind, Live.wp_self]
  cases s.device.tracker.free with
  | cons buffer rest => rfl
  | nil =>
    simp only [takeNumber]
    split
    · simp
    · simp

/-! ## Ending its recording -/

/-- What a list is encoded from: an open render pass is closed first. -/
def CommandList.closed (l : CommandList) : List Recorded :=
  l.commands.toList ++ if l.target.isSome then [.endRenderPass] else []

def CommandList.finished (l : CommandList) : CommandList :=
  { l with target := none, finalized := true, commands := #[] }

@[simp] theorem CommandList.finished_buffer (l : CommandList) : l.finished.buffer = l.buffer := rfl

@[simp] theorem CommandList.finished_sets (l : CommandList) : l.finished.sets = l.sets := rfl

namespace Recording

theorem wp_finalize {Q : Option (List Command) → Recording → Prop}
    {E : Fault → Recording → Prop} {r : Recording} :
    finalize.wp Q E r ↔
      (r.list.finalized = true → Q none r) ∧
        (r.list.finalized = false →
          Q (some (encode r.list.closed)) { r with list := r.list.finished }) := by
  cases finalized : r.list.finalized with
  | true => simp [finalize, finalized, wp_ite]
  | false =>
    cases target : r.list.target with
    | none =>
      simp [finalize, finalized, target, wp_ite, CommandList.closed, CommandList.finished]
    | some t =>
      simp [finalize, finalized, target, wp_ite, CommandList.closed, CommandList.finished]

end Recording

/-! ## Queueing it -/

namespace SubmissionTracker

variable {β σ φ : Type} [DecidableEq β] {t t' : SubmissionTracker β σ φ} {buffer : β} {fence : φ}

theorem markSubmitted?_eq_some :
    t.markSubmitted? buffer fence = some t' ↔
      t.isInFlight buffer = false ∧
        t' = { t with inFlight := t.inFlight ++ [(buffer, fence)] } := by
  cases busy : t.isInFlight buffer <;> simp [markSubmitted?, busy, eq_comm]

theorem markSubmitted?_eq_none :
    t.markSubmitted? buffer fence = none ↔ t.isInFlight buffer = true := by
  simp [markSubmitted?]

end SubmissionTracker

namespace Recording

def afterQueue (r : Recording) : Platform :=
  (r.live.platform.submit .commandList (encode r.list.closed)).2

def afterWait (r : Recording) : Platform :=
  r.afterQueue.polled r.live.device.connection (some r.live.platform.submissions)

/-- Only a wait that succeeds covers anything. -/
theorem finishedOn_afterWait (r : Recording) :
    r.afterWait.finishedOn r.live.device.connection =
      if r.live.platform.script.nextPoll = true then
        max (r.live.platform.finishedOn r.live.device.connection) (r.live.platform.submissions + 1)
      else r.live.platform.finishedOn r.live.device.connection := by
  rw [afterWait, Platform.finishedOn_polled]
  simp only [and_true]
  rfl

end Recording

/-- All that can come of queueing the list at hand, by whether it is to be waited for. -/
inductive SubmitEnd (r : Recording) : Bool → Except Fault Unit → Recording → Prop where
  /-- Its caller had finalized it, so that nothing was queued. -/
  | refused (wait : Bool) :
    SubmitEnd r wait (.error (.device (.precondition .finalizedByCaller))) r
  | waited (succeeds : r.live.platform.script.nextPoll = true) :
    SubmitEnd r true (.ok ()) ⟨⟨r.afterWait, r.live.device⟩, r.list.finished⟩
  /-- It was queued, but the wait for it failed. -/
  | waitFailed (fails : r.live.platform.script.nextPoll = false) :
    SubmitEnd r true (.error (.device (.backend .pollTimeout)))
      ⟨⟨r.afterWait, r.live.device⟩, r.list.finished⟩
  /-- It is in flight until the next synchronisation. -/
  | marked (idle : r.live.device.tracker.isInFlight r.list.buffer = false) :
    SubmitEnd r false (.ok ())
      ⟨⟨r.afterQueue, { r.live.device with
          tracker.inFlight :=
            r.live.device.tracker.inFlight ++ [(r.list.buffer, r.live.platform.submissions)] }⟩,
        r.list.finished⟩
  /-- It was queued, but its buffer was in flight already. -/
  | twice (busy : r.live.device.tracker.isInFlight r.list.buffer = true) :
    SubmitEnd r false (.error (.device (.precondition (.alreadyInFlight r.list.buffer.text))))
      ⟨⟨r.afterQueue, r.live.device⟩, r.list.finished⟩

theorem Recording.submit_ends (r : Recording) (wait : Bool) :
    (submit wait).wp (fun _ t => SubmitEnd r wait (.ok ()) t)
      (fun e t => SubmitEnd r wait (.error e) t) r := by
  simp only [submit, wp_bind, wp_finalize, wp_orRefuse_none, wp_orRefuse_some]
  refine ⟨fun _ => .refused wait, fun _ => ?_⟩
  cases wait with
  | true =>
    simp only [wp_onDevice, Live.wp_request, if_true, Gpu.wait, wp_bind, Live.wp_self,
      Live.wp_onPlatform, Platform.wp_poll]
    exact ⟨.waited, .waitFailed⟩
  | false =>
    simp only [wp_onDevice, Live.wp_request, Bool.false_eq_true, if_false, wp_bind, wp_current,
      Live.wp_self, wp_orRefuse, Live.wp_update]
    refine ⟨fun tracker marked => ?_, fun unmarked => ?_⟩
    · obtain ⟨idle, rfl⟩ := SubmissionTracker.markSubmitted?_eq_some.1 marked
      exact .marked idle
    · exact .twice (SubmissionTracker.markSubmitted?_eq_none.1 unmarked)

/-! ## Synchronising -/

namespace Gpu

theorem wait_covers {s : Live Gpu} {fence : Platform.Fence}
    (queued : fence < s.platform.submissions) :
    (wait (some fence)).wp
      (fun _ t => t.device = s.device ∧ s.platform.Advances t.platform ∧
        fence < t.platform.finishedOn s.device.connection)
      (fun _ t => t.device = s.device ∧ s.platform.Advances t.platform) s := by
  have advances : s.platform.Advances (s.platform.polled s.device.connection (some fence)) :=
    Platform.advances_polled _ _ fun f same => Option.some.inj same ▸ queued
  simp only [wait, wp_bind, Live.wp_self, Live.wp_onPlatform, Platform.wp_poll]
  refine ⟨fun succeeds => ⟨trivial, advances, ?_⟩, fun _ => ⟨trivial, advances⟩⟩
  rw [Platform.finishedOn_polled, if_pos ⟨succeeds, rfl⟩]
  exact Nat.lt_of_lt_of_le (Nat.lt_succ_self fence) (Nat.le_max_right _ _)

/-- So do waits in order, up to the first that fails. -/
theorem waits_cover {entries : List (CommandBufferId × Platform.Fence)} {s : Live Gpu}
    (queued : ∀ e ∈ entries, e.2 < s.platform.submissions) :
    Action.wp (entries.forM fun e => wait (some e.2))
      (fun _ t => t.device = s.device ∧ s.platform.Advances t.platform ∧
        ∀ e ∈ entries, e.2 < t.platform.finishedOn s.device.connection)
      (fun _ t => t.device = s.device ∧ s.platform.Advances t.platform) s := by
  induction entries generalizing s with
  | nil => exact ⟨rfl, Evolution.refl _, nofun⟩
  | cons e entries ih =>
    -- What the first wait covered stays covered, since later waits only cover more.
    refine (wp_bind _ _).2 ((wait_covers (queued e (List.mem_cons_self ..))).mono ?_ ?_)
    · rintro - t ⟨device, advances, covered⟩
      refine (ih fun e' member => Nat.lt_of_lt_of_le (queued e' (List.mem_cons_of_mem _ member))
        advances.submissions).mono ?_ ?_
      · rintro - u ⟨device', advances', covered'⟩
        rw [device] at device' covered'
        refine ⟨device', Evolution.trans advances advances', fun e' member => ?_⟩
        rcases List.mem_cons.1 member with rfl | member
        · exact Nat.lt_of_lt_of_le covered (advances'.finished _)
        · exact covered' e' member
      · rintro - u ⟨device', advances'⟩
        exact ⟨device'.trans device, Evolution.trans advances advances'⟩
    · exact fun _ _ failed => failed

/-- The device after a synchronisation that succeeded. -/
def reclaimed (g : Gpu) : Gpu :=
  recycleSets g.tracker.pendingSets { g with tracker := g.tracker.reclaimed }

/-- A synchronisation reclaims what was pending after all in flight was waited for; if a wait
fails it reclaims nothing. -/
theorem commandSync_ends {s : Live Gpu}
    (queued : ∀ e ∈ s.device.tracker.inFlight, e.2 < s.platform.submissions) :
    commandSync.wp
      (fun _ t => t.device = s.device.reclaimed ∧ s.platform.Advances t.platform ∧
        ∀ e ∈ s.device.tracker.inFlight, e.2 < t.platform.finishedOn s.device.connection)
      (fun _ t => t.device = s.device ∧ s.platform.Advances t.platform) s := by
  simp only [commandSync, SubmissionTracker.syncWith, wp_bind, Live.wp_self, wp_pure,
    Live.wp_update]
  refine (waits_cover queued).mono ?_ fun _ _ failed => failed
  rintro - t ⟨device, advances, covered⟩
  exact ⟨by rw [device, reclaimed], advances, covered⟩

end Gpu

end DeviceLayer
