import DeviceLayer.Proofs.Conservation
import Mathlib.Data.List.Pairwise

/-!
# No reuse before completion

What a queued list used may be used again only after a wait that covers it has succeeded. A device
keeps to that but for one case: a list that is queued and waited for at once is dropped right after
its wait, also when that wait failed.

* `Client.Safe` — no list is queued, uncovered and yet free for other use.
* `CallEnd` — all that a call can do to what is in flight.
* `Client.Watched` — the invariant: what is queued and not covered is in flight and pending.
* `Client.safe_iff` — a run is safe exactly when no list's own wait failed.
-/

namespace DeviceLayer

open DeviceLayer.Action

structure Queued.Apart (q q' : Queued) : Prop where
  buffer : q.buffer ≠ q'.buffer
  sets : ∀ set ∈ q.sets, set ∉ q'.sets

namespace Client

/-- A wait that covers the queued list has succeeded. -/
def covered (c : Client) (q : Queued) : Prop :=
  q.fence < c.live.platform.finishedOn c.live.device.connection

/-- Nothing that a queued list used is free, nor held by another list. -/
structure Reserves (c : Client) (q : Queued) : Prop where
  buffer_not_free : q.buffer ∉ c.live.device.tracker.free
  buffer_not_held : ∀ list ∈ c.lists, list.buffer ≠ q.buffer
  sets_not_free : ∀ set ∈ q.sets, set.set ∉ (c.live.device.poolOf set.layout).free
  sets_not_held : ∀ list ∈ c.lists, ∀ set ∈ q.sets, set ∉ list.sets

/-- Whatever a queued list used is kept for it until a wait that covers it has succeeded: it is
neither free nor held by a list, and no list that was queued later used it. -/
structure Safe (c : Client) : Prop where
  reserves : ∀ q ∈ c.queued, ¬c.covered q → c.Reserves q
  apart : c.queued.Pairwise fun q later => ¬c.covered q → q.Apart later

end Client

/-! ## What a call does to what is in flight -/

/-- All that a call can do to what is in flight. -/
inductive CallEnd (c c' : Client) : Prop where
  /-- Nothing was queued by a list, and nothing reclaimed. -/
  | kept (queued : c'.queued = c.queued)
    (inFlight : c'.live.device.tracker.inFlight = c.live.device.tracker.inFlight)
    (pendingSets : c'.live.device.tracker.pendingSets = c.live.device.tracker.pendingSets)
  /-- All in flight was waited for, and what was pending reclaimed. -/
  | synced (queued : c'.queued = c.queued)
    (inFlight : c'.live.device.tracker.inFlight = [])
    (pendingSets : c'.live.device.tracker.pendingSets = [])
    (finished : ∀ e ∈ c.live.device.tracker.inFlight,
      e.2 < c'.live.platform.finishedOn c.live.device.connection)
  /-- A list was queued and waited for; whether or not that succeeded, its buffer is free. -/
  | waited (q : Queued) (queued : c'.queued = c.queued ++ [q])
    (fence : q.fence = c.live.platform.submissions)
    (later : c'.live.platform.submissions = c.live.platform.submissions + 1)
    (inFlight : c'.live.device.tracker.inFlight = c.live.device.tracker.inFlight)
    (pendingSets : c'.live.device.tracker.pendingSets = c.live.device.tracker.pendingSets)
    (covered : q.waitFailed = false → c'.covered q)
    (free : q.buffer ∈ c'.live.device.tracker.free)
    (unfinished : q.waitFailed = true →
      c'.live.platform.finishedOn c.live.device.connection =
        c.live.platform.finishedOn c.live.device.connection)
  /-- A list was queued and is in flight. -/
  | marked (q : Queued) (queued : c'.queued = c.queued ++ [q])
    (fence : q.fence = c.live.platform.submissions)
    (later : c'.live.platform.submissions = c.live.platform.submissions + 1)
    (inFlight : c'.live.device.tracker.inFlight =
      c.live.device.tracker.inFlight ++ [(q.buffer, q.fence)])
    (pendingSets : c'.live.device.tracker.pendingSets =
      c.live.device.tracker.pendingSets ++ q.sets)
    (waitFailed : q.waitFailed = false)

/-- The device stays on its connection, and its platform advances. -/
structure Moves (s t : Live Gpu) : Prop where
  connection : t.device.connection = s.device.connection
  platform : s.platform.Advances t.platform

instance : Evolution Moves where
  refl _ := ⟨rfl, Evolution.refl _⟩
  trans first second :=
    ⟨second.connection.trans first.connection, Evolution.trans first.platform second.platform⟩

theorem SubmitEnd.moves {r t : Recording} {wait : Bool} {result : Except Fault Unit}
    (ended : SubmitEnd r wait result t) : Moves r.live t.live := by
  have queued : r.live.platform.Advances r.afterQueue := Platform.advances_submit _ _ _
  have waited : r.afterQueue.Advances r.afterWait :=
    Platform.advances_polled _ _ fun f same => Option.some.inj same ▸ Nat.lt_succ_self _
  cases ended with
  | refused => exact Evolution.refl _
  | waited | waitFailed => exact ⟨rfl, Evolution.trans queued waited⟩
  | marked | twice => exact ⟨rfl, queued⟩

theorem UseEnd.moves {r t : Recording} {wait : Bool} {result : Except Fault Unit}
    (ended : UseEnd r wait result t) : Moves r.live (Gpu.afterDrop t) := by
  have dropped : Moves t.live (Gpu.afterDrop t) := by
    exact ⟨Gpu.releaseList_connection _ _, Evolution.refl _⟩
  have recorded {r t : Recording} (fair : r.Fair t) : Moves r.live t.live :=
    ⟨fair.connection, fair.platform.advances⟩
  cases ended with
  | stopped fair => exact Evolution.trans (recorded fair) dropped
  | submitted fair ended =>
    exact Evolution.trans (Evolution.trans (recorded fair) ended.moves) dropped

/-- Nothing was queued, waited for or reclaimed. -/
structure Client.Alike (c c' : Client) : Prop where
  queued : c'.queued = c.queued
  connection : c'.live.device.connection = c.live.device.connection
  inFlight : c'.live.device.tracker.inFlight = c.live.device.tracker.inFlight
  pendingSets : c'.live.device.tracker.pendingSets = c.live.device.tracker.pendingSets
  platform : c.live.platform.Idle c'.live.platform

namespace Client.Alike

variable {c c₁ c' : Client}

theorem trans (first : c.Alike c₁) (second : c₁.Alike c') : c.Alike c' :=
  ⟨second.queued.trans first.queued, second.connection.trans first.connection,
    second.inFlight.trans first.inFlight, second.pendingSets.trans first.pendingSets,
    Evolution.trans first.platform second.platform⟩

theorem withLists (alike : c.Alike c') (lists : List CommandList) :
    c.Alike { c' with lists := lists } :=
  ⟨alike.queued, alike.connection, alike.inFlight, alike.pendingSets, alike.platform⟩

theorem moves (alike : c.Alike c') : Moves c.live c'.live :=
  ⟨alike.connection, alike.platform.advances⟩

theorem callEnd (alike : c.Alike c') : CallEnd c c' :=
  .kept alike.queued alike.inFlight alike.pendingSets

/-- What comes after is seen in the same way from before. -/
theorem followed (alike : c.Alike c₁) (after : CallEnd c₁ c') : CallEnd c c' := by
  have finished : c₁.live.platform.finishedOn = c.live.platform.finishedOn := by
    funext d
    rw [Platform.finishedOn, Platform.finishedOn, alike.platform.finished]
  cases after with
  | kept queued inFlight pendingSets =>
    exact .kept (queued.trans alike.queued) (inFlight.trans alike.inFlight)
      (pendingSets.trans alike.pendingSets)
  | synced queued inFlight pendingSets covered =>
    rw [alike.inFlight, alike.connection] at covered
    exact .synced (queued.trans alike.queued) inFlight pendingSets covered
  | waited q queued fence later inFlight pendingSets covered free unfinished =>
    rw [alike.queued] at queued
    rw [alike.platform.submissions] at fence later
    rw [alike.connection, finished] at unfinished
    exact .waited q queued fence later (inFlight.trans alike.inFlight)
      (pendingSets.trans alike.pendingSets) covered free unfinished
  | marked q queued fence later inFlight pendingSets waitFailed =>
    rw [alike.queued] at queued
    rw [alike.platform.submissions] at fence later
    rw [alike.inFlight] at inFlight
    rw [alike.pendingSets] at pendingSets
    exact .marked q queued fence later inFlight pendingSets waitFailed

end Client.Alike

/-- A list that was not queued only frees what it held. -/
theorem Recording.Fair.kept {c : Client} {list : CommandList} {t : Recording}
    (fair : Fair ⟨c.live, list⟩ t) (h : c.live.device.custody.Conserved (list :: c.lists))
    (wait : Bool) (result : Except Fault Unit) : CallEnd c (c.afterUse wait result t) := by
  have idle : t.live.device.tracker.isInFlight t.list.buffer = false := (fair.conserves h).idle
  have tracker : (c.afterUse wait result t).live.device.tracker =
      { c.live.device.tracker with free := t.list.buffer :: c.live.device.tracker.free } := by
    rw [Client.afterUse, Gpu.afterDrop, Gpu.tracker_releaseList_idle idle, fair.tracker]
  refine .kept ?_ ?_ ?_
  · exact if_pos fair.platform.submissions
  · rw [tracker]
  · rw [tracker]

/-- Queueing a list, seen from what is in flight. -/
theorem SubmitEnd.callEnd {c : Client} {list : CommandList} {wait : Bool}
    {result : Except Fault Unit} {t : Recording} (ended : SubmitEnd ⟨c.live, list⟩ wait result t)
    (h : c.live.device.custody.Conserved (list :: c.lists)) :
    CallEnd c (c.afterUse wait result t) := by
  have idle : c.live.device.tracker.isInFlight list.finished.buffer = false := h.idle
  -- A list that is not marked as in flight is dropped like one that was never queued.
  have dropped : (Gpu.releaseList list.finished c.live.device).tracker =
      { c.live.device.tracker with free := list.buffer :: c.live.device.tracker.free } :=
    Gpu.tracker_releaseList_idle idle
  have inFlight : (Gpu.releaseList list.finished c.live.device).tracker.inFlight =
      c.live.device.tracker.inFlight := by
    rw [dropped]
  have pendingSets : (Gpu.releaseList list.finished c.live.device).tracker.pendingSets =
      c.live.device.tracker.pendingSets := by
    rw [dropped]
  have free : list.buffer ∈ (Gpu.releaseList list.finished c.live.device).tracker.free := by
    rw [dropped]
    exact List.mem_cons_self ..
  have queued : c.live.platform.submissions + 1 ≠ c.live.platform.submissions :=
    Nat.succ_ne_self _
  cases ended with
  | refused => exact Recording.Fair.kept (Evolution.refl _) h wait _
  | waited succeeds =>
    refine .waited _ (if_neg queued) rfl rfl inFlight pendingSets (fun _ => ?_) free
      fun failed => absurd failed Bool.false_ne_true
    show c.live.platform.submissions < (Recording.afterWait ⟨c.live, list⟩).finishedOn
      (Gpu.releaseList list.finished c.live.device).connection
    rw [Gpu.releaseList_connection, Recording.finishedOn_afterWait, if_pos succeeds]
    exact Nat.lt_of_lt_of_le (Nat.lt_succ_self _) (Nat.le_max_right _ _)
  | waitFailed fails =>
    refine .waited _ (if_neg queued) rfl rfl inFlight pendingSets
      (fun succeeded => absurd succeeded.symm Bool.false_ne_true) free fun _ => ?_
    show (Recording.afterWait ⟨c.live, list⟩).finishedOn c.live.device.connection = _
    rw [Recording.finishedOn_afterWait, if_neg (Bool.eq_false_iff.1 fails)]
  | marked =>
    have marked := congrArg Gpu.tracker
      (Gpu.releaseList_marked list.finished c.live.device c.live.platform.submissions)
    refine .marked _ (if_neg queued) rfl rfl ?_ ?_ rfl
    · exact congrArg SubmissionTracker.inFlight marked
    · exact congrArg SubmissionTracker.pendingSets marked
  | twice busy => exact absurd busy (Bool.eq_false_iff.1 idle)

/-- Using a list up, seen from what is in flight. -/
theorem UseEnd.callEnd {c : Client} {list : CommandList} {wait : Bool}
    {result : Except Fault Unit} {t : Recording} (ended : UseEnd ⟨c.live, list⟩ wait result t)
    (h : c.live.device.custody.Conserved (list :: c.lists)) :
    CallEnd c (c.afterUse wait result t) := by
  cases ended with
  | stopped fair => exact fair.kept h wait _
  | @submitted r' _ _ fair ended =>
    -- The recording before it is not to be seen, so the submission counts from the start.
    have alike : c.Alike { c with live := r'.live } :=
      ⟨rfl, fair.connection, congrArg (·.inFlight) fair.tracker,
        congrArg (·.pendingSets) fair.tracker, fair.platform⟩
    have same : c.afterUse wait result t =
        Client.afterUse { c with live := r'.live } wait result t := by
      rw [Client.afterUse, Client.afterUse, fair.platform.submissions]
    rw [same]
    exact alike.followed (ended.callEnd (fair.conserves h))

namespace Client

theorem alike_newList (c : Client) : c.Alike (c.onDevice Gpu.newList).2 := by
  have kept : Gpu.newList.wp (fun _ t => c.Alike { c with live := t })
      (fun _ t => c.Alike { c with live := t }) c.live := by
    rw [Gpu.wp_newList]
    split
    · exact ⟨rfl, rfl, rfl, rfl, Evolution.refl _⟩
    · split <;> exact ⟨rfl, rfl, rfl, rfl, Evolution.refl _⟩
  exact wp.outcome (P := fun o => c.Alike { c with live := o.2 }) kept

theorem alike_quiet {c : Client} {live : Live Gpu} (step : Gpu.Quiet Platform.Idle c.live live) :
    c.Alike { c with live := live } :=
  ⟨rfl, step.connection, congrArg (·.tracker.inFlight) step.custody,
    congrArg (·.tracker.pendingSets) step.custody, step.platform⟩

theorem alike_onList (c : Client) (i : Nat) {action : Action Recording Unit}
    (fair : action.Evolves Recording.Fair) : c.Alike (c.onList i action).2 := by
  unfold onList
  split
  · exact ⟨rfl, rfl, rfl, rfl, Evolution.refl _⟩
  · rename_i list found
    have step := fair.outcome ⟨c.live, list⟩
    exact ⟨rfl, step.connection, congrArg (·.inFlight) step.tracker,
      congrArg (·.pendingSets) step.tracker, step.platform⟩

theorem alike_drop {c : Client} {list : CommandList}
    (h : c.live.device.custody.Conserved (list :: c.lists)) :
    c.Alike (c.onDevice (Live.update (Gpu.releaseList list))).2 := by
  have tracker := Gpu.tracker_releaseList_idle h.idle
  exact ⟨rfl, Gpu.releaseList_connection _ _, congrArg (·.inFlight) tracker,
    congrArg (·.pendingSets) tracker, Evolution.refl _⟩

theorem callEnd_useUp {c c₁ : Client} {list : CommandList} {wait : Bool}
    {action : Action Recording Unit} (alike : c.Alike c₁)
    (h : c₁.live.device.custody.Conserved (list :: c₁.lists))
    (uses : Recording.Uses wait action) :
    Moves c.live (c₁.useUp list wait action).2.live ∧
      CallEnd c (c₁.useUp list wait action).2 := by
  have ended := uses.outcome ⟨c₁.live, list⟩
  exact ⟨Evolution.trans alike.moves ended.moves, alike.followed (ended.callEnd h)⟩

theorem callEnd_sync {c : Client} (h : c.Accounted) :
    Moves c.live (c.onDevice Gpu.commandSync).2.live ∧
      CallEnd c (c.onDevice Gpu.commandSync).2 := by
  have ended : Gpu.commandSync.wp
      (fun _ t => Moves c.live t ∧ CallEnd c { c with live := t })
      (fun _ t => Moves c.live t ∧ CallEnd c { c with live := t }) c.live := by
    refine (Gpu.commandSync_ends h.dated).mono ?_ ?_
    · rintro - t ⟨device, advances, finished⟩
      refine ⟨⟨?_, advances⟩, .synced rfl ?_ ?_ finished⟩
      · rw [device, Gpu.reclaimed, Gpu.recycleSets_connection]
      · simp only [device, Gpu.reclaimed, Gpu.recycleSets_tracker]
        rfl
      · simp only [device, Gpu.reclaimed, Gpu.recycleSets_tracker]
        rfl
    · rintro - t ⟨device, advances⟩
      refine ⟨⟨congrArg _ device, advances⟩, .kept rfl ?_ ?_⟩
      · rw [device]
      · rw [device]
  exact wp.outcome (P := fun o => Moves c.live o.2 ∧ CallEnd c { c with live := o.2 }) ended

end Client

theorem Call.ends (call : Call) {c : Client} (h : c.Accounted) :
    Moves c.live (call.step c).2.live ∧ CallEnd c (call.step c).2 := by
  have idle : c.Alike c := ⟨rfl, rfl, rfl, rfl, Evolution.refl _⟩
  have both {c' : Client} (alike : c.Alike c') : Moves c.live c'.live ∧ CallEnd c c' :=
    ⟨alike.moves, alike.callEnd⟩
  cases call with
  | newList =>
    have made := c.alike_newList
    simp only [Call.step]
    generalize c.onDevice Gpu.newList = o at made ⊢
    obtain ⟨result, c'⟩ := o
    cases result with
    | error e => exact both made
    | ok list => exact both (made.withLists _)
  | record i call => exact both (c.alike_onList i call.fair)
  | finalize i => exact both (c.alike_onList i Recording.framed_finalize.discard)
  | submit i wait =>
    simp only [Call.step]
    split
    · exact both idle
    · rename_i list found
      exact Client.callEnd_useUp (idle.withLists _) (h.takeOut found).conserved
        (Recording.submit_uses wait)
  | drop i =>
    simp only [Call.step]
    split
    · exact both idle
    · rename_i list found
      exact both ((idle.withLists _).trans (Client.alike_drop (h.takeOut found).conserved))
  | sync => exact Client.callEnd_sync h
  | launch stream kernel mapping =>
    have quiet : Gpu.Quiet Platform.Idle c.live _ :=
      (Gpu.evolves_prepareLaunch stream kernel mapping).outcome c.live
    have prepared : c.Alike (c.onDevice (Gpu.prepareLaunch stream kernel mapping)).2 :=
      Client.alike_quiet quiet
    have accounted : (c.onDevice (Gpu.prepareLaunch stream kernel mapping)).2.Accounted :=
      h.quiet ⟨quiet.connection, quiet.custody, quiet.platform.advances⟩
    simp only [Call.step]
    generalize c.onDevice (Gpu.prepareLaunch stream kernel mapping) = o at prepared accounted ⊢
    obtain ⟨result, c₁⟩ := o
    cases result with
    | error e => exact both prepared
    | ok found =>
      have made := prepared.trans c₁.alike_newList
      have holding := Client.accounted_newList accounted
      dsimp only at made holding ⊢
      generalize c₁.onDevice Gpu.newList = o at made holding ⊢
      obtain ⟨result, c₂⟩ := o
      cases result with
      | error e => exact both made
      | ok list => exact Client.callEnd_useUp made holding.conserved (Kernel.queue_uses _ _)
  | device call =>
    have step := call.quiet.outcome c.live
    exact ⟨⟨step.connection, step.platform⟩, .kept rfl (congrArg (·.tracker.inFlight) step.custody)
      (congrArg (·.tracker.pendingSets) step.custody)⟩
  | script answers => exact both ⟨rfl, rfl, rfl, rfl, ⟨rfl, rfl⟩⟩

/-! ## The invariant -/

namespace Client

/-- What is queued and not covered is in flight and pending, unless its own wait failed. -/
structure Watched (c : Client) : Prop where
  accounted : c.Accounted
  orderly : c.live.platform.Orderly
  ordered : c.queued.Pairwise fun q later => q.fence < later.fence
  past : ∀ q ∈ c.queued, q.fence < c.live.platform.submissions
  watch : ∃ active : List Queued,
    c.live.device.tracker.inFlight = active.map (fun q => (q.buffer, q.fence)) ∧
      c.live.device.tracker.pendingSets = active.flatMap (·.sets) ∧
      ∀ q ∈ c.queued, q.waitFailed = false → ¬c.covered q → q ∈ active

theorem covered_of_moves {c c' : Client} (moves : Moves c.live c'.live) {q : Queued}
    (covered : c.covered q) : c'.covered q := by
  unfold Client.covered at covered ⊢
  rw [moves.connection]
  exact Nat.lt_of_lt_of_le covered (moves.platform.finished _)

theorem Watched.newest {c c' : Client} (h : c.Watched) {q : Queued}
    (queued : c'.queued = c.queued ++ [q]) (fence : q.fence = c.live.platform.submissions)
    (later : c'.live.platform.submissions = c.live.platform.submissions + 1) :
    (c'.queued.Pairwise fun q later => q.fence < later.fence) ∧
      ∀ q ∈ c'.queued, q.fence < c'.live.platform.submissions := by
  rw [queued, later]
  refine ⟨List.pairwise_append.2 ⟨h.ordered, List.pairwise_singleton _ _, ?_⟩, ?_⟩
  · intro earlier member newest same
    cases List.mem_singleton.1 same
    rw [fence]
    exact h.past earlier member
  · refine List.forall_mem_append.2 ⟨fun any member => ?_, List.forall_mem_singleton.2 ?_⟩
    · exact Nat.lt_succ_of_lt (h.past any member)
    · rw [fence]
      exact Nat.lt_succ_self _

/-- Every call keeps watch, whether it succeeds or fails. -/
theorem Watched.step {c : Client} (h : c.Watched) (call : Call) : (call.step c).2.Watched := by
  have accounted := call.accounted c h.accounted
  obtain ⟨moves, ended⟩ := call.ends h.accounted
  generalize (call.step c).2 = c' at accounted moves ended ⊢
  have orderly := moves.platform.orderly h.orderly
  obtain ⟨active, inFlight, pendingSets, watch⟩ := h.watch
  have before (q : Queued) (member : q ∈ c.queued) (succeeded : q.waitFailed = false)
      (uncovered : ¬c'.covered q) : q ∈ active :=
    watch q member succeeded fun covered => uncovered (covered_of_moves moves covered)
  have past (q : Queued) (member : q ∈ c.queued) : q.fence < c'.live.platform.submissions :=
    Nat.lt_of_lt_of_le (h.past q member) moves.platform.submissions
  cases ended with
  | kept queued inFlight' pendingSets' =>
    refine ⟨accounted, orderly, queued ▸ h.ordered, queued ▸ past, active, ?_, ?_, queued ▸ before⟩
    · rw [inFlight', inFlight]
    · rw [pendingSets', pendingSets]
  | synced queued inFlight' pendingSets' finished =>
    refine ⟨accounted, orderly, queued ▸ h.ordered, queued ▸ past, [], inFlight', pendingSets', ?_⟩
    rw [queued]
    -- All that was in flight is covered now, so nothing is left to watch.
    intro q member succeeded uncovered
    have waiting : (q.buffer, q.fence) ∈ c.live.device.tracker.inFlight := by
      rw [inFlight]
      exact List.mem_map_of_mem (f := fun q : Queued => (q.buffer, q.fence))
        (before q member succeeded uncovered)
    refine absurd ?_ uncovered
    unfold Client.covered
    rw [moves.connection]
    exact finished _ waiting
  | waited q queued fence later inFlight' pendingSets' covered free unfinished =>
    obtain ⟨ordered, past⟩ := h.newest queued fence later
    refine ⟨accounted, orderly, ordered, past, active, ?_, ?_, ?_⟩
    · rw [inFlight', inFlight]
    · rw [pendingSets', pendingSets]
    · -- The new list is covered by its own wait, unless that failed.
      rw [queued]
      refine List.forall_mem_append.2 ⟨before, List.forall_mem_singleton.2 ?_⟩
      exact fun succeeded uncovered => absurd (covered succeeded) uncovered
  | marked q queued fence later inFlight' pendingSets' waitFailed =>
    obtain ⟨ordered, past⟩ := h.newest queued fence later
    refine ⟨accounted, orderly, ordered, past, active ++ [q], ?_, ?_, ?_⟩
    · rw [inFlight', inFlight, List.map_append]
      rfl
    · rw [pendingSets', pendingSets, List.flatMap_append, List.flatMap_singleton]
    · -- The new list is in flight with those that were before.
      rw [queued]
      refine List.forall_mem_append.2 ⟨fun any member succeeded uncovered => ?_,
        List.forall_mem_singleton.2 fun _ _ => ?_⟩
      · exact List.mem_append_left _ (before any member succeeded uncovered)
      · exact List.mem_append_right _ (List.mem_singleton_self q)

theorem watched_fresh {c : Client} (fresh : c.Fresh) : c.Watched := by
  have accounted := accounted_fresh fresh
  cases fresh with
  | mk id created orderly =>
    obtain ⟨-, adapter, placeholder, rfl, submissions, finished, -⟩ := Gpu.create_eq_ok created
    refine ⟨accounted, fun d => ?_, .nil, nofun, [], rfl, rfl, nofun⟩
    show (_ : Platform).finishedOn d ≤ _
    rw [Platform.finishedOn, finished, submissions]
    exact orderly d

theorem Watched.run {c : Client} (h : c.Watched) (calls : List Call) : (c.run calls).Watched := by
  induction calls generalizing c with
  | nil => exact h
  | cons call calls ih => exact ih (h.step call)

/-! ## Safety -/

/-- What is in flight is kept for the lists that used it. -/
theorem Watched.reserves {c : Client} (h : c.Watched) {q : Queued} (member : q ∈ c.queued)
    (succeeded : q.waitFailed = false) (uncovered : ¬c.covered q) : c.Reserves q := by
  obtain ⟨active, inFlight, pendingSets, watch⟩ := h.watch
  have isActive := watch q member succeeded uncovered
  have conserved := h.accounted.conserved
  have buffer : q.buffer ∈ c.live.device.custody.tracker.pendingBuffers := by
    rw [← List.mem_reverse, ← conserved.inFlight]
    show q.buffer ∈ c.live.device.tracker.inFlight.map (·.1)
    rw [inFlight, List.map_map]
    exact List.mem_map_of_mem (f := fun q : Queued => q.buffer) isActive
  have sets (set : SetHandle) (used : set ∈ q.sets) :
      set ∈ c.live.device.custody.tracker.pendingSets := by
    show set ∈ c.live.device.tracker.pendingSets
    rw [pendingSets]
    exact List.mem_flatMap_of_mem isActive used
  refine ⟨(conserved.pendingBuffer_apart buffer).1, fun list held same => ?_,
    fun set used => (conserved.pendingSet_apart (sets set used)).1,
    fun list held set used shared => ?_⟩
  · refine (conserved.pendingBuffer_apart buffer).2 ?_
    rw [← same]
    exact List.mem_map_of_mem (f := fun l : CommandList => l.buffer) held
  · exact (conserved.pendingSet_apart (sets set used)).2 (List.mem_flatMap_of_mem held shared)

/-- Two lists in flight used nothing in common. -/
theorem Watched.apart {c : Client} (h : c.Watched) {q later : Queued} (member : q ∈ c.queued)
    (member' : later ∈ c.queued) (succeeded : q.waitFailed = false)
    (succeeded' : later.waitFailed = false) (order : q.fence < later.fence)
    (uncovered : ¬c.covered q) : q.Apart later := by
  obtain ⟨active, inFlight, pendingSets, watch⟩ := h.watch
  have conserved := h.accounted.conserved
  -- A wait that covers the later list would cover the earlier one too.
  have uncovered' : ¬c.covered later := fun covered => uncovered (Nat.lt_trans order covered)
  have isActive := watch q member succeeded uncovered
  have isActive' := watch later member' succeeded' uncovered'
  have distinct : q ≠ later := fun same => Nat.lt_irrefl _ (same ▸ order)
  refine ⟨fun same => ?_, fun set used shared => ?_⟩
  · have once : (active.map (·.buffer)).Nodup := by
      have nodup := List.nodup_reverse.2 conserved.pendingBuffers_nodup
      rw [← conserved.inFlight] at nodup
      change (c.live.device.tracker.inFlight.map (·.1)).Nodup at nodup
      rwa [inFlight, List.map_map] at nodup
    exact distinct (List.inj_on_of_nodup_map once isActive isActive' same)
  · have once : (active.flatMap (·.sets)).Nodup := pendingSets ▸ conserved.pendingSets_nodup
    have disjoint := (List.nodup_flatMap.1 once).2
    have symm : Std.Symm (Function.onFun List.Disjoint fun q : Queued => q.sets) :=
      ⟨fun _ _ apart => List.disjoint_symm apart⟩
    exact disjoint.forall isActive isActive' distinct used shared

/-- A client none of whose lists failed its own wait is safe. -/
theorem Watched.safe {c : Client} (h : c.Watched)
    (succeeded : ∀ q ∈ c.queued, q.waitFailed = false) : c.Safe where
  reserves q member uncovered := h.reserves member (succeeded q member) uncovered
  apart := h.ordered.imp_of_mem fun member member' order uncovered =>
    h.apart member member' (succeeded _ member) (succeeded _ member') order uncovered

theorem Watched.queued_step {c : Client} (h : c.Watched) (call : Call) :
    c.queued <+: (call.step c).2.queued := by
  obtain ⟨-, ended⟩ := call.ends h.accounted
  cases ended with
  | kept queued | synced queued => exact queued.symm ▸ List.prefix_refl _
  | waited q queued | marked q queued =>
    rw [queued]
    exact List.prefix_append _ _

theorem Watched.queued_run {c : Client} (h : c.Watched) (calls : List Call) :
    c.queued <+: (c.run calls).queued := by
  induction calls generalizing c with
  | nil => exact List.prefix_refl _
  | cons call calls ih => exact (h.queued_step call).trans (ih (h.step call))

/-- A call that leaves the client safe has let no list's own wait fail. -/
theorem Watched.succeeded_step {c : Client} (h : c.Watched) (call : Call)
    (safe : (call.step c).2.Safe) (succeeded : ∀ q ∈ c.queued, q.waitFailed = false) :
    ∀ q ∈ (call.step c).2.queued, q.waitFailed = false := by
  obtain ⟨moves, ended⟩ := call.ends h.accounted
  generalize (call.step c).2 = c' at safe moves ended ⊢
  cases ended with
  | kept queued | synced queued =>
    rw [queued]
    exact succeeded
  | marked q queued fence later inFlight pendingSets waitFailed =>
    rw [queued]
    exact List.forall_mem_append.2 ⟨succeeded, List.forall_mem_singleton.2 waitFailed⟩
  | waited q queued fence later inFlight pendingSets covered free unfinished =>
    -- If its wait failed, nothing covers the new list, and yet its buffer is free.
    have newest : q.waitFailed = false := by
      refine Bool.eq_false_iff.2 fun failed => ?_
      have isQueued : q ∈ c'.queued :=
        queued ▸ List.mem_append_right _ (List.mem_singleton_self q)
      refine (safe.reserves q isQueued fun covered => ?_).buffer_not_free free
      unfold Client.covered at covered
      rw [moves.connection, unfinished failed, fence] at covered
      exact Nat.not_le.2 covered (h.orderly _)
    rw [queued]
    exact List.forall_mem_append.2 ⟨succeeded, List.forall_mem_singleton.2 newest⟩

theorem Watched.succeeded_run {c : Client} (h : c.Watched) (calls : List Call)
    (safe : ∀ done, done <+: calls → (c.run done).Safe)
    (succeeded : ∀ q ∈ c.queued, q.waitFailed = false) :
    ∀ q ∈ (c.run calls).queued, q.waitFailed = false := by
  induction calls generalizing c with
  | nil => exact succeeded
  | cons call calls ih =>
    refine ih (h.step call) (fun done started => ?_) ?_
    · exact safe (call :: done) ((List.prefix_cons_inj call).2 started)
    · exact h.succeeded_step call (safe [call] ⟨calls, rfl⟩) succeeded

/-- At every moment of a run everything a queued list used is kept for it until a wait that covers
it has succeeded, exactly if no list of the run was queued and waited for with a wait that failed:
such a list frees its buffer and its sets at once. -/
theorem safe_iff {start : Client} (fresh : start.Fresh) (calls : List Call) :
    (∀ done, done <+: calls → (start.run done).Safe) ↔
      ∀ q ∈ (start.run calls).queued, q.waitFailed = false := by
  have watched := watched_fresh fresh
  constructor
  · -- A list whose own wait failed is not safe right after the call that queued it.
    intro safe
    refine watched.succeeded_run calls safe ?_
    cases fresh
    exact nofun
  · -- What was queued at that moment is still written down at the end of the run.
    rintro succeeded done ⟨rest, rfl⟩
    refine (watched.run done).safe fun q member => succeeded q ?_
    have later := (watched.run done).queued_run rest
    rw [run, run, ← List.foldl_append] at later
    exact later.subset member

theorem safe_opened :
    (opened ⟨1⟩).Fresh ∧
      ∀ done, done <+: [Call.newList, .submit 0 false, .sync, .newList, .submit 0 true] →
        ((opened ⟨1⟩).run done).Safe :=
  ⟨fresh_opened ⟨1⟩, (safe_iff (fresh_opened ⟨1⟩) _).2 (by decide)⟩

/-- The list is queued, the wait for it fails, and its buffer is free. -/
theorem not_safe_after_failed_wait :
    ¬((opened ⟨1⟩).run [.newList, .script { polls := [false] }, .submit 0 true]).Safe := by
  intro safe
  have reserved := safe.reserves ⟨0, ⟨0⟩, [], true⟩ (by decide) (Nat.not_lt_zero 0)
  exact reserved.buffer_not_free (by decide)

end Client

end DeviceLayer
