import DeviceLayer.Proofs.Clients
import DeviceLayer.Proofs.Custody
import DeviceLayer.Proofs.RecordingFrames
import Mathlib.Data.List.Perm.Basic

/-!
# Conservation of command buffers and descriptor sets

Command buffers and descriptor sets are never lost and never doubled, whatever a client does and
whatever fails on the way.

* `Recording.Fair` — what recording may do to a list and its device; every recording call is fair.
* `UseEnd` — all that can come of using a list up.
* `Client.Accounted` — the invariant of a client; every call keeps it.
* `Client.conservation` — what follows for every client of a device.
-/

namespace DeviceLayer

open DeviceLayer.Action

/-! ## Recording -/

namespace Recording

/-- What recording may do: the list may take sets from their pools, and nothing is queued. -/
structure Fair (r t : Recording) : Prop where
  buffer : t.list.buffer = r.list.buffer
  connection : t.live.device.connection = r.live.device.connection
  tracker : t.live.device.tracker = r.live.device.tracker
  platform : r.live.platform.Idle t.live.platform
  conserves : ∀ {others : List CommandList},
    r.live.device.custody.Conserved (r.list :: others) →
      t.live.device.custody.Conserved (t.list :: others)

instance : Evolution Fair where
  refl _ := ⟨rfl, rfl, rfl, Evolution.refl _, id⟩
  trans first second :=
    ⟨second.buffer.trans first.buffer, second.connection.trans first.connection,
      second.tracker.trans first.tracker, Evolution.trans first.platform second.platform,
      fun h => second.conserves (first.conserves h)⟩

instance : Gpu.Growing (OnLive Fair) where
  grows h _ := ⟨rfl, rfl, rfl, h.toIdle, id⟩

instance : Frame Fair where
  device := .of fun h _ =>
    ⟨rfl, h.connection, congrArg Gpu.Custody.tracker h.custody, Evolution.refl _,
      fun conserved => h.custody.symm ▸ conserved⟩
  list buffer sets := ⟨buffer, rfl, rfl, Evolution.refl _, fun h => h.replace buffer sets⟩
  takeSet layout r := by
    refine (Gpu.allocSet_conserves layout).mono ?_ ?_
    · rintro set t ⟨platform, connection, tracker, conserves⟩
      exact ⟨rfl, connection, tracker, platform ▸ Evolution.refl _,
        fun h => conserves r.list _ _ rfl rfl h⟩
    · rintro e t rfl
      exact Evolution.refl r

end Recording

/-- Every recording call is fair, also when it fails on the way. -/
theorem RecordingCall.fair (call : RecordingCall) : call.run.Evolves Recording.Fair := call.framed

/-! ## Using a list up -/

/-- All that can come of using a list up: after fair recording it stops, or it is submitted. -/
inductive UseEnd (r : Recording) (wait : Bool) : Except Fault Unit → Recording → Prop where
  | stopped {e : Fault} {t : Recording} (fair : r.Fair t) : UseEnd r wait (.error e) t
  | submitted {r' t : Recording} {result : Except Fault Unit} (fair : r.Fair r')
      (ended : SubmitEnd r' wait result t) : UseEnd r wait result t

/-- The action may use a list up, and waits for it or not. -/
def Recording.Uses (wait : Bool) (action : Action Recording Unit) : Prop :=
  ∀ r, action.wp (fun _ t => UseEnd r wait (.ok ()) t) (fun e t => UseEnd r wait (.error e) t) r

namespace Recording

theorem Uses.outcome {wait : Bool} {action : Action Recording Unit} (uses : Uses wait action)
    (r : Recording) : UseEnd r wait (action.outcome r).1 (action.outcome r).2 :=
  wp.outcome (P := fun o => UseEnd r wait o.1 o.2) (uses r)

theorem submit_uses (wait : Bool) : Uses wait (submit wait) := by
  intro r
  refine (submit_ends r wait).mono (fun _ t ended => ?_) fun e t ended => ?_
  · exact .submitted (Evolution.refl r) ended
  · exact .submitted (Evolution.refl r) ended

theorem Uses.after {wait : Bool} {first action : Action Recording Unit}
    (fair : first.Evolves Fair) (uses : Uses wait action) :
    Uses wait (first >>= fun _ => action) := by
  intro r
  rw [wp_bind]
  have prefixed {r' t : Recording} {result : Except Fault Unit} (step : r.Fair r')
      (ended : UseEnd r' wait result t) : UseEnd r wait result t := by
    cases ended with
    | stopped rest => exact .stopped (Evolution.trans step rest)
    | submitted rest ended => exact .submitted (Evolution.trans step rest) ended
  refine (fair r).mono (fun _ r' step => ?_) fun e t step => .stopped step
  exact (uses r').mono (fun _ t => prefixed step) fun e t => prefixed step

end Recording

theorem Kernel.queue_uses (kernel : Kernel) (binder : Binder) :
    Recording.Uses false (kernel.queue binder) := by
  refine .after (RecordingCall.fair (.bindPipeline kernel.pipeline)) ?_
  refine .after (RecordingCall.fair (.bindResources binder)) ?_
  exact .after (RecordingCall.fair (.dispatch _ _ _)) (Recording.submit_uses false)

/-- Dropped at the end, the list leaves everything in its place. -/
theorem SubmitEnd.conserves {r t : Recording} {wait : Bool} {result : Except Fault Unit}
    {others : List CommandList} (ended : SubmitEnd r wait result t)
    (h : r.live.device.custody.Conserved (r.list :: others)) :
    (Gpu.afterDrop t).device.custody.Conserved others := by
  cases ended with
  | refused => exact Gpu.release_conserves h
  | waited | waitFailed => exact Gpu.release_conserves (h.replace rfl rfl)
  | marked =>
    exact Gpu.releaseMarked_conserves
      (h.replace r.list.finished_buffer r.list.finished_sets) _
  | twice busy => exact absurd busy (Bool.eq_false_iff.1 h.idle)

theorem UseEnd.conserves {r t : Recording} {wait : Bool} {result : Except Fault Unit}
    {others : List CommandList} (ended : UseEnd r wait result t)
    (h : r.live.device.custody.Conserved (r.list :: others)) :
    (Gpu.afterDrop t).device.custody.Conserved others := by
  cases ended with
  | stopped fair => exact Gpu.release_conserves (fair.conserves h)
  | submitted fair ended => exact ended.conserves (fair.conserves h)

/-! ## Clients -/

/-- Everything is in its place, and what is in flight was queued before now. -/
structure Client.Accounted (c : Client) : Prop where
  conserved : c.live.device.custody.Conserved c.lists
  dated : ∀ e ∈ c.live.device.tracker.inFlight, e.2 < c.live.platform.submissions

theorem SubmitEnd.dated {r t : Recording} {wait : Bool} {result : Except Fault Unit}
    (ended : SubmitEnd r wait result t)
    (dated : ∀ e ∈ r.live.device.tracker.inFlight, e.2 < r.live.platform.submissions) :
    ∀ e ∈ t.live.device.tracker.inFlight, e.2 < t.live.platform.submissions := by
  have later (e) (member : e ∈ r.live.device.tracker.inFlight) :
      e.2 < r.live.platform.submissions + 1 :=
    Nat.lt_succ_of_lt (dated e member)
  cases ended with
  | refused => exact dated
  | waited | waitFailed | twice => exact later
  | marked =>
    exact List.forall_mem_append.2 ⟨later, List.forall_mem_singleton.2 (Nat.lt_succ_self _)⟩

theorem UseEnd.dated {r t : Recording} {wait : Bool} {result : Except Fault Unit}
    (ended : UseEnd r wait result t)
    (dated : ∀ e ∈ r.live.device.tracker.inFlight, e.2 < r.live.platform.submissions) :
    ∀ e ∈ t.live.device.tracker.inFlight, e.2 < t.live.platform.submissions := by
  cases ended with
  | stopped fair =>
    rw [fair.tracker, fair.platform.submissions]
    exact dated
  | submitted fair ended =>
    -- Fair recording queues nothing, so the dates are still those from before it.
    refine ended.dated ?_
    rw [fair.tracker, fair.platform.submissions]
    exact dated

namespace Client

variable {c : Client}

theorem Accounted.quiet (h : c.Accounted) {live : Live Gpu}
    (step : Gpu.Quiet Platform.Advances c.live live) : Accounted { c with live := live } where
  conserved := step.custody ▸ h.conserved
  dated e member := by
    have tracker : live.device.tracker = c.live.device.tracker :=
      congrArg Gpu.Custody.tracker step.custody
    rw [tracker] at member
    exact Nat.lt_of_lt_of_le (h.dated e member) step.platform.submissions

theorem Accounted.takeOut (h : c.Accounted) {i : Nat} {list : CommandList}
    (found : c.lists[i]? = some list) :
    Accounted { c with lists := list :: c.lists.eraseIdx i } := by
  obtain ⟨inside, rfl⟩ := List.getElem?_eq_some_iff.1 found
  exact ⟨h.conserved.perm (List.getElem_cons_eraseIdx_perm inside).symm, h.dated⟩

theorem accounted_onDevice {α : Type} {action : Action (Live Gpu) α}
    (h : action.wp (fun _ live => Accounted { c with live := live })
      (fun _ live => Accounted { c with live := live }) c.live) :
    (c.onDevice action).2.Accounted :=
  wp.outcome (P := fun o => Accounted { c with live := o.2 }) h

theorem accounted_newList (h : c.Accounted) :
    match c.onDevice Gpu.newList with
    | (.ok list, c) => Accounted { c with lists := list :: c.lists }
    | (.error _, c) => c.Accounted := by
  have dated : Gpu.newList.wp
      (fun _ t => ∀ e ∈ t.device.tracker.inFlight, e.2 < t.platform.submissions)
      (fun _ t => ∀ e ∈ t.device.tracker.inFlight, e.2 < t.platform.submissions) c.live := by
    rw [Gpu.wp_newList]
    split
    · exact h.dated
    · split <;> exact h.dated
  have both := (Gpu.newList_conserves h.conserved).and dated
  unfold wp at both
  unfold onDevice outcome
  cases made : Gpu.newList c.live with
  | ok list live =>
    rw [made] at both
    exact ⟨both.1, both.2⟩
  | error e live =>
    rw [made] at both
    exact ⟨both.1, both.2⟩

theorem accounted_onList (h : c.Accounted) (i : Nat) {action : Action Recording Unit}
    (fair : action.Evolves Recording.Fair) : (c.onList i action).2.Accounted := by
  unfold onList
  split
  · exact h
  · rename_i list found
    have step := fair.outcome ⟨c.live, list⟩
    have apart := h.takeOut found
    obtain ⟨inside, rfl⟩ := List.getElem?_eq_some_iff.1 found
    refine ⟨?_, ?_⟩
    -- The list is set apart for the action and put back where it was.
    · exact (step.conserves apart.conserved).perm (List.set_perm_cons_eraseIdx inside _).symm
    · simp only [step.tracker, step.platform.submissions]
      exact h.dated

theorem accounted_useUp {list : CommandList} {wait : Bool} {action : Action Recording Unit}
    (h : Accounted { c with lists := list :: c.lists }) (uses : Recording.Uses wait action) :
    (c.useUp list wait action).2.Accounted := by
  have ended := uses.outcome ⟨c.live, list⟩
  refine ⟨ended.conserves h.conserved, ?_⟩
  simp only [useUp, afterUse, Gpu.afterDrop, Gpu.releaseList_inFlight]
  exact ended.dated h.dated

theorem accounted_drop {list : CommandList}
    (h : Accounted { c with lists := list :: c.lists }) :
    (c.onDevice (Live.update (Gpu.releaseList list))).2.Accounted := by
  refine accounted_onDevice ⟨Gpu.release_conserves h.conserved, ?_⟩
  rw [Gpu.releaseList_inFlight]
  exact h.dated

theorem accounted_sync (h : c.Accounted) : (c.onDevice Gpu.commandSync).2.Accounted := by
  refine accounted_onDevice ((Gpu.commandSync_ends h.dated).mono ?_ ?_)
  · rintro - live ⟨device, advances, -⟩
    refine ⟨?_, ?_⟩
    · rw [device]
      exact Gpu.reclaimed_conserves h.conserved
    · simp only [device, Gpu.reclaimed, Gpu.recycleSets_tracker]
      exact fun e member => absurd member List.not_mem_nil
  · rintro - live ⟨device, advances⟩
    refine ⟨?_, fun e member => ?_⟩
    · rw [device]
      exact h.conserved
    · rw [device] at member
      exact Nat.lt_of_lt_of_le (h.dated e member) advances.submissions

end Client

/-- Every call keeps the account, whether it succeeds or fails. -/
theorem Call.accounted (call : Call) (c : Client) (h : c.Accounted) :
    (call.step c).2.Accounted := by
  cases call with
  | newList =>
    have made := Client.accounted_newList h
    simp only [Call.step]
    generalize c.onDevice Gpu.newList = o at made ⊢
    obtain ⟨result, c⟩ := o
    cases result with
    | error e => exact made
    | ok list => exact ⟨made.conserved.perm (List.perm_append_singleton _ _).symm, made.dated⟩
  | record i call => exact Client.accounted_onList h i call.fair
  | finalize i => exact Client.accounted_onList h i Recording.framed_finalize.discard
  | submit i wait =>
    simp only [Call.step]
    split
    · exact h
    · rename_i list found
      exact Client.accounted_useUp (h.takeOut found) (Recording.submit_uses wait)
  | drop i =>
    simp only [Call.step]
    split
    · exact h
    · rename_i list found
      exact Client.accounted_drop (h.takeOut found)
  | sync => exact Client.accounted_sync h
  | launch stream kernel mapping =>
    -- A list is made and used up within the call; no other call sees it.
    have prepared : (c.onDevice (Gpu.prepareLaunch stream kernel mapping)).2.Accounted :=
      h.quiet ((Gpu.evolves_prepareLaunch stream kernel mapping).outcome c.live)
    simp only [Call.step]
    generalize c.onDevice (Gpu.prepareLaunch stream kernel mapping) = o at prepared ⊢
    obtain ⟨result, c⟩ := o
    cases result with
    | error e => exact prepared
    | ok found =>
      have made := Client.accounted_newList prepared
      dsimp only at made ⊢
      generalize c.onDevice Gpu.newList = o at made ⊢
      obtain ⟨result, c⟩ := o
      cases result with
      | error e => exact made
      | ok list => exact Client.accounted_useUp made (Kernel.queue_uses _ _)
  | device call => exact h.quiet (call.quiet.outcome c.live)
  | script answers => exact ⟨h.conserved, h.dated⟩

namespace Client

theorem accounted_fresh {c : Client} (fresh : c.Fresh) : c.Accounted := by
  cases fresh with
  | @mk limits p q g id created =>
    obtain ⟨-, adapter, placeholder, rfl, -⟩ := Gpu.create_eq_ok created
    refine ⟨⟨fun b => ?_, rfl, fun layout slot => rfl, fun layout => ⟨rfl, Nat.zero_le _⟩⟩, nofun⟩
    exact (if_neg (Nat.not_lt_zero _)).symm

theorem Reachable.accounted {c : Client} (reachable : c.Reachable) : c.Accounted :=
  reachable.induct (fun _ => accounted_fresh) Call.accounted

end Client

structure Gpu.AllFree (g : Gpu) : Prop where
  buffers : ∀ b : CommandBufferId, b.index < g.nextCommandBuffer → g.tracker.free.count b = 1
  inFlight : g.tracker.inFlight = []
  sets : ∀ (layout : CacheHandle) (slot : UInt32),
    slot.toNat < (g.poolOf layout).allocated → (g.poolOf layout).free.count slot = 1

/-- With no list alive, all that is not free is pending, and a synchronisation frees that. -/
theorem Gpu.Custody.Conserved.allFree {g : Gpu} (h : g.custody.Conserved []) :
    g.reclaimed.AllFree := by
  have after := reclaimed_conserves h
  have tracker : g.reclaimed.tracker = g.tracker.reclaimed := recycleSets_tracker _ _
  refine ⟨fun b made => ?_, ?_, fun layout slot made => ?_⟩
  · have counted := after.buffers b
    simp only [custody, tracker, SubmissionTracker.reclaimed, List.map_nil, List.append_nil]
      at counted ⊢
    rw [counted, if_pos made]
  · rw [tracker]
    rfl
  · have counted := after.sets layout slot
    simp only [custody, tracker, SubmissionTracker.reclaimed, List.flatMap_nil, List.append_nil,
      List.count_nil, Nat.add_zero] at counted
    rw [counted, if_pos made]

/-- A list that a client holds was not queued, so it is not in flight when it is submitted. -/
theorem Client.Accounted.submit_not_twice {c : Client} (h : c.Accounted) (i : Nat) (wait : Bool)
    (buffer : String) : ((Call.submit i wait).step c).1 ≠
      .error (.device (.precondition (.alreadyInFlight buffer))) := by
  intro failed
  simp only [Call.step] at failed
  split at failed
  · cases failed
  · rename_i list found
    have ended := wp.outcome (P := fun o => SubmitEnd ⟨c.live, list⟩ wait o.1 o.2)
      (Recording.submit_ends ⟨c.live, list⟩ wait)
    change ((Recording.submit wait).outcome ⟨c.live, list⟩).1 = _ at failed
    generalize (Recording.submit wait).outcome ⟨c.live, list⟩ = o at ended failed
    obtain ⟨result, t⟩ := o
    cases failed
    cases ended with
    | twice busy => exact absurd busy (Bool.eq_false_iff.1 (h.takeOut found).conserved.idle)

/-- Once no list is alive, a synchronisation that succeeds frees everything. -/
theorem Client.Accounted.sync_allFree {c : Client} (h : c.Accounted) (none : c.lists = [])
    (synced : (Call.sync.step c).1 = .ok ()) : (Call.sync.step c).2.live.device.AllFree := by
  have device := wp.outcome (P := fun o => o.1 = .ok () → o.2.device = c.live.device.reclaimed)
    ((Gpu.commandSync_ends h.dated).mono (fun _ _ done _ => done.1) fun _ _ _ failed => by
      cases failed)
  have conserved := h.conserved
  rw [none] at conserved
  exact (device synced).symm ▸ conserved.allFree

/-- The account of every client of a device: nothing is lost and nothing is doubled, so that no
submission finds its buffer in flight already, and once no list is alive a synchronisation that
succeeds frees everything. -/
theorem Client.conservation {c : Client} (reachable : c.Reachable) :
    c.live.device.custody.Conserved c.lists ∧
      (∀ (i : Nat) (wait : Bool) (buffer : String), ((Call.submit i wait).step c).1 ≠
        .error (.device (.precondition (.alreadyInFlight buffer)))) ∧
      (c.lists = [] → (Call.sync.step c).1 = .ok () →
        (Call.sync.step c).2.live.device.AllFree) := by
  have accounted := reachable.accounted
  exact ⟨accounted.conserved, accounted.submit_not_twice, accounted.sync_allFree⟩

theorem Client.conservation_opened :
    let c := (opened ⟨1⟩).run [.newList, .submit 0 false]
    c.Reachable ∧ c.live.device.custody.Conserved c.lists ∧
      (Call.sync.step c).2.live.device.AllFree := by
  intro c
  have reachable : c.Reachable := ⟨_, fresh_opened ⟨1⟩, _, rfl⟩
  have account := conservation reachable
  exact ⟨reachable, account.1, account.2.2 (by decide) (by decide)⟩

end DeviceLayer
