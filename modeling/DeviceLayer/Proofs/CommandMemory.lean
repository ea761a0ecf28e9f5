import DeviceLayer.Proofs.ListEffects

/-!
# What command lists do to memory

However many lists are recorded for a device, in whatever order they are queued, and whatever else
is asked of its memory in between: what the live allocations hold is what plain memory with deferred
effects holds.

* `Mirrors` — plain memory is what a device stands for, with its lists and the commands taken.
* `Request.mirrored`, `Holder.mirrors` — it keeps up with every request, and over every run.
* `Holder.memory_is_plain` — what the device holds after every run.
-/

namespace DeviceLayer

open DeviceLayer.Action

/-! ## Lists of related things -/

section

variable {α β : Type} {R : α → β → Prop} {xs : List α} {ys : List β}

theorem forall₂_lookUp (h : List.Forall₂ R xs ys) (i : Nat) :
    (xs[i]? = none ∧ ys[i]? = none) ∨ ∃ x y, xs[i]? = some x ∧ ys[i]? = some y ∧ R x y := by
  induction h generalizing i with
  | nil => exact .inl ⟨rfl, rfl⟩
  | cons related _ ih =>
    cases i with
    | zero => exact .inr ⟨_, _, rfl, rfl, related⟩
    | succ i => exact ih i

theorem forall₂_set (h : List.Forall₂ R xs ys) {x : α} {y : β} (related : R x y) (i : Nat) :
    List.Forall₂ R (xs.set i x) (ys.set i y) := by
  induction h generalizing i with
  | nil => exact .nil
  | cons first rest ih =>
    cases i with
    | zero => exact .cons related rest
    | succ i => exact .cons first (ih i)

theorem forall₂_eraseIdx (h : List.Forall₂ R xs ys) (i : Nat) :
    List.Forall₂ R (xs.eraseIdx i) (ys.eraseIdx i) := by
  rw [List.eraseIdx_eq_take_drop_succ, List.eraseIdx_eq_take_drop_succ]
  exact List.rel_append (List.forall₂_take i h) (List.forall₂_drop (i + 1) h)

theorem eraseIdx_of_getElem? {i : Nat} (none : ys[i]? = none) : ys.eraseIdx i = ys :=
  List.eraseIdx_of_length_le (List.getElem?_eq_none_iff.1 none)

theorem set_of_getElem? {i : Nat} {y : β} (found : ys[i]? = some y) : ys.set i y = ys := by
  obtain ⟨bound, rfl⟩ := List.getElem?_eq_some_iff.1 found
  exact List.set_getElem_self bound

end

/-! ## Every request -/

/-- Plain memory is what the device of a holder stands for, and what its lists and the commands it
took will do. -/
structure Mirrors (h : Holder) (p : Plain) (q : Placement) : Prop where
  stands : Gpu.Stands h.client.live q
  blocks : q.blocks = p.blocks
  lists : List.Forall₂ (CommandList.Bears q) h.client.lists p.lists
  taken : List.Forall₂ (fun commands effects => q.Issues effects (commands.filter Command.moves))
    h.taken p.taken

def Request.Mirrored (request : Request) (h : Holder) (p : Plain) : Prop :=
  ∃ q, Mirrors (request.step h) (p.next request (request.hears h)) q

namespace Mirrors

variable {h : Holder} {p : Plain} {q : Placement}

/-- A step of the device, whatever else becomes of the holder. -/
theorem stepped (mirrors : Mirrors h p q) {c : Client} {m : Blocks}
    (follows : Gpu.Follows m q c.live) (lists : c.lists = h.client.lists) :
    ∃ q', Mirrors ⟨c, h.taken⟩ { p with blocks := m } q' := by
  obtain ⟨q', stands, blocks, carries⟩ := follows
  refine ⟨q', stands, blocks, ?_, ?_⟩
  · rw [lists]
    exact mirrors.lists.imp fun _ _ bears => bears.carried carries
  · exact mirrors.taken.imp fun _ _ => carries.issues

theorem still (mirrors : Mirrors h p q) {c : Client} (step : Gpu.MemoryStill h.client.live c.live)
    (lists : c.lists = h.client.lists) : ∃ q', Mirrors ⟨c, h.taken⟩ p q' := by
  have same : { p with blocks := q.blocks } = p := by rw [mirrors.blocks]
  have stepped := mirrors.stepped (mirrors.stands.follows step) lists
  rwa [same] at stepped

theorem erased (mirrors : Mirrors h p q) (i : Nat) :
    Mirrors { h with client.lists := h.client.lists.eraseIdx i }
      { p with lists := p.lists.eraseIdx i } q :=
  ⟨mirrors.stands, mirrors.blocks, forall₂_eraseIdx mirrors.lists i, mirrors.taken⟩

theorem queued (mirrors : Mirrors h p q) (i : Nat) :
    Mirrors { h with taken := h.taken.eraseIdx i } { p with taken := p.taken.eraseIdx i } q :=
  ⟨mirrors.stands, mirrors.blocks, mirrors.lists, forall₂_eraseIdx mirrors.taken i⟩

theorem memory (mirrors : Mirrors h p q) (call : MemoryCall) :
    Request.Mirrored (.ask (.device (.memory call))) h p := by
  have live : ((Call.device (.memory call)).step h.client).2.live =
      (call.run.outcome h.client.live).2 := outcome_discard _ _
  have follows := call.follows mirrors.stands
  rw [mirrors.blocks] at follows
  simp only [Request.Mirrored, Request.hears]
  cases ran : call.run.outcome h.client.live with
  | mk result t =>
    rw [ran] at live
    cases result with
    | ok answer => exact mirrors.stepped (live ▸ follows.ended ran) rfl
    | error e => exact mirrors.stepped (live ▸ follows.failed ran) rfl

theorem copyWithin (mirrors : Mirrors h p q) (dst : Pointer) (src : Range) :
    Request.Mirrored (.ask (.device (.copyWithin dst src))) h p := by
  have live : ((Call.device (.copyWithin dst src)).step h.client).2.live =
      ((Gpu.copyWithin dst src).outcome h.client.live).2 := outcome_discard _ _
  have follows := Gpu.follows_copyWithin mirrors.stands dst src
  have copies := Gpu.copyWithin_copies dst src h.client.live
  have same {t : Live Gpu} (untouched : t = h.client.live) : Gpu.MemoryStill h.client.live t :=
    untouched ▸ Evolution.refl _
  rw [mirrors.blocks] at follows
  simp only [Request.Mirrored, Request.hears]
  cases ran : (Gpu.copyWithin dst src).outcome h.client.live with
  | mk result t =>
    rw [ran] at live
    cases result with
    | ok copied =>
      cases copied with
      | true => exact mirrors.stepped (live ▸ follows.ended ran rfl) rfl
      | false => exact mirrors.still (live ▸ same (copies.ended ran rfl)) rfl
    | error e => exact mirrors.still (live ▸ same (copies.failed ran)) rfl

theorem newList (mirrors : Mirrors h p q) :
    Request.Mirrored (.ask .newList) h p := by
  have made := Gpu.wp_newList_framed (S := Gpu.Still) h.client.live
  simp only [Request.Mirrored, Request.step, Request.hears, Call.step, Client.onDevice]
  cases ran : Gpu.newList.outcome h.client.live with
  | mk result t =>
    cases result with
    | ok list =>
      obtain ⟨⟨buffer, rfl⟩, step⟩ := made.ended ran
      obtain ⟨q', stepped⟩ := mirrors.still (c := { h.client with live := t }) step.memoryStill rfl
      have bears : CommandList.Bears q' { buffer } (some []) := ⟨rfl, q'.issues_nil⟩
      exact ⟨q', stepped.stands, stepped.blocks, List.rel_append stepped.lists (.cons bears .nil),
        stepped.taken⟩
    | error e =>
      exact mirrors.still (c := { h.client with live := t }) (made.failed ran).memoryStill rfl

theorem record (mirrors : Mirrors h p q) (i : Nat) (call : RecordingCall) :
    Request.Mirrored (.ask (.record i call)) h p := by
  simp only [Request.Mirrored, Request.step, Request.hears, Call.step, Client.onList]
  rcases forall₂_lookUp mirrors.lists i with
    ⟨none, none'⟩ | ⟨list, effects, found, found', bears⟩
  · have same : p.lists.modify i (·.map (· ++ call.effects p.blocks)) = p.lists :=
      List.modify_eq_self (List.getElem?_eq_none_iff.1 none')
    simp only [none, Plain.next, same]
    exact ⟨q, mirrors⟩
  · have still : call.run.Evolves Recording.Still := call.framed
    have recorded := bears.record mirrors.stands call
    have step := still.outcome ⟨h.client.live, list⟩
    simp only [found]
    cases ran : call.run.outcome ⟨h.client.live, list⟩ with
    | mk result t =>
      rw [ran] at step
      -- Whether it fails or not, it may have made native buffers.
      obtain ⟨stands, carries⟩ := mirrors.stands.extended step.memoryStill
      have lists := mirrors.lists.imp fun _ _ bears => bears.carried carries
      have taken := mirrors.taken.imp fun _ _ => carries.issues
      cases result with
      | ok =>
        have set : p.lists.modify i (·.map (· ++ call.effects p.blocks)) =
            p.lists.set i (effects.map (· ++ call.effects p.blocks)) := by
          rw [List.modify_eq_set_getElem?, found']
          rfl
        have bears' := recorded.ended ran
        rw [mirrors.blocks] at bears'
        simp only [Plain.next, set]
        exact ⟨_, stands, mirrors.blocks, forall₂_set lists bears' i, taken⟩
      | error e =>
        have lists' := forall₂_set lists (recorded.failed ran) i
        rw [set_of_getElem? found'] at lists'
        exact ⟨_, stands, mirrors.blocks, lists', taken⟩

theorem finalize (mirrors : Mirrors h p q) (i : Nat) :
    Request.Mirrored (.ask (.finalize i)) h p := by
  simp only [Request.Mirrored, Request.step, Call.step, Client.onList, Client.handsOut?, Plain.next]
  rcases forall₂_lookUp mirrors.lists i with
    ⟨none, none'⟩ | ⟨list, effects, found, found', bears⟩
  · have same : p.lists.set i Option.none = p.lists :=
      List.set_eq_of_length_le (List.getElem?_eq_none_iff.1 none')
    simp only [none, none', same, Option.join_none, Option.toList_none, List.append_nil]
    exact ⟨q, mirrors⟩
  · simp only [found, found', outcome_discard, Recording.outcome_finalize]
    cases effects with
    | none =>
      -- A list hands its commands out once.
      have finalized : list.finalized = true := bears
      have same : h.client.lists.set i list = h.client.lists := set_of_getElem? found
      have same' : p.lists.set i Option.none = p.lists := set_of_getElem? found'
      simp only [finalized, if_true, same, same', Option.join_some, Option.toList_none,
        List.append_nil]
      exact ⟨q, mirrors⟩
    | some effects =>
      obtain ⟨recording, issues⟩ := bears
      rw [← list.encode_moved] at issues
      simp only [recording, Bool.false_eq_true, if_false, Option.join_some, Option.toList_some]
      refine ⟨q, mirrors.stands, mirrors.blocks, forall₂_set mirrors.lists ?_ i, ?_⟩
      · exact (rfl : list.finished.finalized = true)
      · exact List.rel_append mirrors.taken (.cons issues .nil)

theorem submit (mirrors : Mirrors h p q) (i : Nat) (wait : Bool) :
    Request.Mirrored (.ask (.submit i wait)) h p := by
  simp only [Request.Mirrored, Request.step, Call.step, Plain.next]
  rcases forall₂_lookUp mirrors.lists i with
    ⟨none, none'⟩ | ⟨list, effects, found, found', bears⟩
  · simp only [none, none', eraseIdx_of_getElem? none']
    exact ⟨q, mirrors⟩
  · -- The list is gone whether it was queued or refused, and so is what plain memory had for it.
    simp only [found, found', Option.join_some]
    have follows := bears.submit mirrors.stands wait
    rw [mirrors.blocks] at follows
    have follows := wp.outcome (P := fun o => Gpu.Follows _ q (Gpu.afterDrop o.2)) follows
    simp only [Client.useUp]
    exact (mirrors.erased i).stepped follows rfl

theorem drop (mirrors : Mirrors h p q) (i : Nat) :
    Request.Mirrored (.ask (.drop i)) h p := by
  simp only [Request.Mirrored, Request.step, Call.step, Plain.next]
  rcases forall₂_lookUp mirrors.lists i with
    ⟨none, none'⟩ | ⟨list, effects, found, found', bears⟩
  · simp only [none, eraseIdx_of_getElem? none']
    exact ⟨q, mirrors⟩
  · simp only [found]
    have dropped := Gpu.framed_afterDrop (S := Gpu.Still) ⟨h.client.live, list⟩
    exact (mirrors.erased i).still dropped.memoryStill rfl

theorem queue (mirrors : Mirrors h p q) (i : Nat) :
    Request.Mirrored (.queue i) h p := by
  simp only [Request.Mirrored, Request.step, Plain.next]
  rcases forall₂_lookUp mirrors.taken i with
    ⟨none, none'⟩ | ⟨commands, effects, found, found', issues⟩
  · simp only [none, none', eraseIdx_of_getElem? none']
    exact ⟨q, mirrors⟩
  · have live : ((Call.device (.queueNative commands)).step h.client).2.live =
        { h.client.live with
          platform := (h.client.live.platform.submit .commandList commands).2 } :=
      outcome_discard _ _
    have follows := mirrors.stands.submitted issues .commandList
    rw [← live, mirrors.blocks] at follows
    simp only [found, found']
    exact (mirrors.queued i).stepped follows rfl

end Mirrors

theorem Request.mirrored {h : Holder} {p : Plain} {q : Placement} {request : Request}
    (own : request.isOwn = true) (mirrors : Mirrors h p q) : request.Mirrored h p := by
  cases request with
  | queue i => exact mirrors.queue i
  | ask call =>
    cases call with
    | newList => exact mirrors.newList
    | record i call => exact mirrors.record i call
    | finalize i => exact mirrors.finalize i
    | submit i wait => exact mirrors.submit i wait
    | drop i => exact mirrors.drop i
    | sync =>
      have synced := (Gpu.framed_commandSync (S := Gpu.Still)).outcome h.client.live
      exact mirrors.still synced.memoryStill rfl
    | launch stream kernel mapping =>
      have launched := (Gpu.still_launchLocal stream kernel mapping).outcome h.client.live
      rw [← Client.launch_step] at launched
      exact mirrors.still launched.memoryStill (Client.launch_lists stream kernel mapping _)
    | script answers => exact mirrors.still ⟨rfl, UInt32.le_refl _, .of_contents rfl⟩ rfl
    | device call =>
      cases call with
      | memory call => exact mirrors.memory call
      | copyWithin dst src => exact mirrors.copyWithin dst src
      | queueNative commands => cases own
      | _ => exact mirrors.still ((DeviceCall.memoryStill _ rfl).outcome h.client.live) rfl

theorem Client.Fresh.mirrors {start : Client} (fresh : start.Fresh) :
    ∃ q, Mirrors ⟨start, []⟩ {} q := by
  obtain ⟨id, created, -⟩ := fresh
  rename_i limits p q g
  obtain ⟨-, adapter, placeholder, rfl, -⟩ := Gpu.create_eq_ok created
  exact ⟨⟨fun _ => none, fun _ => placeholder, q.contents⟩,
    ⟨⟨nofun, nofun, nofun⟩, rfl, nofun, nofun, nofun⟩, rfl, .nil, .nil⟩

namespace Holder

theorem mirrors {h : Holder} {p : Plain} {q : Placement} (mirrors : Mirrors h p q)
    {requests : List Request} (own : ∀ request ∈ requests, request.isOwn = true) :
    ∃ q', Mirrors (h.run requests) (p.replay (h.dialogue requests)) q' := by
  induction requests generalizing h p q with
  | nil => exact ⟨q, mirrors⟩
  | cons request requests ih =>
    obtain ⟨first, rest⟩ := List.forall_mem_cons.1 own
    obtain ⟨_, mirrors⟩ := Request.mirrored first mirrors
    exact ih mirrors rest

/-- Whatever a holder of a fresh device asks, with any number of lists recorded, finalized, queued
and dropped in any order, and memory calls that succeed or fail in between: the device holds the
allocations and the bytes that plain memory holds, which goes by the requests and the answers to
them. -/
theorem memory_is_plain {start : Client} (fresh : start.Fresh) (requests : List Request)
    (own : ∀ request ∈ requests, request.isOwn = true) (id : UInt32) :
    let h := run ⟨start, []⟩ requests
    Device.memory h.client.live.platform.contents (.gpu h.client.live.device) id =
      (Plain.replay {} (dialogue ⟨start, []⟩ requests)).blocks.memory id := by
  obtain ⟨q, start⟩ := fresh.mirrors
  obtain ⟨q', ends⟩ := mirrors start own
  exact (ends.stands.memory id).trans (congrArg (Blocks.memory · id) ends.blocks)

/-- Two lists, each with a copy and a fill. The source of one copy is written to after that was
recorded, the target of the other is gone when it is queued; the list of that one is finalized and
its commands are queued after the other list. A third list is dropped. -/
def interleaved : List Request :=
  let place (id : UInt32) (offset : UInt64) : Pointer := ⟨⟨1⟩, id, offset⟩
  [.ask (.device (.memory (.allocate (.hostVisible 8)))),
    .ask (.device (.memory (.allocate (.hostVisible 12)))),
    .ask (.device (.memory (.allocate (.deviceLocal 8)))),
    .ask (.device (.memory (.write (place 0 0) ⟨.ofBytes [1, 2, 3, 4, 5, 6, 7, 8], by decide⟩))),
    .ask .newList, .ask .newList, .ask .newList,
    .ask (.record 0 (.fill (place 1 4) 4 0x04030201)),
    .ask (.record 1 (.copy (place 1 0) (place 0 4) wholeSize)),
    .ask (.record 2 (.fill (place 0 0) wholeSize 7)),
    .ask (.record 0 (.copy (place 2 0) (place 0 0) 8)),
    .ask (.record 1 (.fill (place 1 8) wholeSize 0)),
    .ask (.device (.memory (.write (place 0 4) ⟨.ofBytes [9, 9, 9], by decide⟩))),
    .ask (.device (.memory (.deallocate ⟨⟨1⟩, 2⟩))),
    .ask (.finalize 0), .ask (.submit 1 false), .queue 0, .ask (.drop 1)]

theorem memory_is_plain_interleaved :
    let h := run ⟨.opened ⟨1⟩, []⟩ interleaved
    let m := Device.memory h.client.live.platform.contents (.gpu h.client.live.device)
    (∀ request ∈ interleaved, request.isOwn = true) ∧
      m 0 = some [1, 2, 3, 4, 9, 9, 9, 8] ∧ m 1 = some [9, 9, 9, 8, 1, 2, 3, 4, 0, 0, 0, 0] ∧
      m 2 = none := by
  intro h m
  have own : ∀ request ∈ interleaved, request.isOwn = true := by decide
  have plain (id : UInt32) : m id =
      (Plain.replay {} (dialogue ⟨.opened ⟨1⟩, []⟩ interleaved)).blocks.memory id :=
    memory_is_plain (Client.fresh_opened ⟨1⟩) interleaved own id
  rw [plain, plain, plain]
  exact ⟨own, by decide +kernel⟩

end Holder

end DeviceLayer
