import DeviceLayer.Proofs.Failures
import DeviceLayer.Proofs.Standing

/-!
# Effects of command lists

A list bears the effects that were recorded in it, as native commands. While it waits it bears them
wherever the device goes; when it is queued they are run, in order and on what is there by then.

* `CommandList.moved`, `CommandList.Bears` — what a list will move, and the effects that it bears.
* `RecordingCall.issues` — a recording call adds the commands of its effects.
* `Gpu.Stands.ran`, `Gpu.follows_copyWithin` — running the commands of effects runs the effects.
* `Bears.record`, `Bears.submit` — what becomes of the effects of a list.
-/

namespace DeviceLayer

open DeviceLayer.Action

/-! ## Lists -/

namespace CommandList

/-- The native commands recorded so far that move bytes. -/
def moved (l : CommandList) : List Command :=
  (l.commands.toList.flatMap Recorded.issued).filter Command.moves

theorem moved_append {l l' : CommandList} {added : List Recorded}
    (commands : l'.commands.toList = l.commands.toList ++ added) :
    l'.moved = l.moved ++ (added.flatMap Recorded.issued).filter Command.moves := by
  rw [moved, commands, List.flatMap_append, List.filter_append, moved]

theorem encode_moved (l : CommandList) : (encode l.closed).filter Command.moves = l.moved := by
  have closing : ((if l.target.isSome then [Recorded.endRenderPass] else []).flatMap
      Recorded.issued).filter Command.moves = [] := by
    split <;> rfl
  rw [encode_filter, closed, List.flatMap_append, List.filter_append, closing, List.append_nil,
    moved]

/-- A list that records bears effects; one that was finalized bears none. -/
def Bears (q : Placement) (l : CommandList) : Option (List Effect) → Prop
  | some effects => l.finalized = false ∧ q.Issues effects l.moved
  | none => l.finalized = true

theorem Bears.carried {q q' : Placement} {l : CommandList} {effects : Option (List Effect)}
    (bears : l.Bears q effects) (carries : q.Carries q') : l.Bears q' effects := by
  cases effects with
  | none => exact bears
  | some effects => exact ⟨bears.1, carries.issues bears.2⟩

end CommandList

/-! ## Recording -/

def RecordingCall.defers : RecordingCall → Bool
  | .copy .. | .fill .. => true
  | _ => false

theorem RecordingCall.effects_of_not_defers {call : RecordingCall} (other : call.defers = false)
    (m : Blocks) : call.effects m = [] := by
  cases call with
  | copy | fill => cases other
  | _ => rfl

theorem RecordingCall.not_moves {call : RecordingCall} (other : call.defers = false)
    (command : Recorded) (may : call.mayRecord command = true) : command.moves = false := by
  cases call with
  | copy | fill => cases other
  | _ =>
    cases command with
    | copy | clear => cases may
    | _ => rfl

theorem RecordingCall.moved_of_not_defers {call : RecordingCall} (other : call.defers = false)
    {r t : Recording} (adds : Recording.Adds call.mayRecord r t) : t.list.moved = r.list.moved := by
  obtain ⟨added, commands, each⟩ := adds.commands
  rw [CommandList.moved_append commands, filter_issued_of_not_moves, List.append_nil]
  exact fun command member => not_moves other command (each command member)

/-- A size that is aligned is not taken for the size that stands for the rest. -/
theorem resolveSize_ofNat {offset : UInt64} {length total : Nat} (small : length < UInt64.size)
    (aligned : isAligned length = true) :
    resolveSize offset (UInt64.ofNat length) total = length := by
  have exact : (UInt64.ofNat length).toNat = length := UInt64.toNat_ofNat_of_lt small
  rw [resolveSize_of_ne, exact]
  intro whole
  rw [whole] at exact
  rw [← exact] at aligned
  cases aligned

theorem BufferAllocation.size_lt (a : BufferAllocation) : a.size < UInt64.size :=
  a.params.size.toNat_lt

namespace Recording

variable {r : Recording}

theorem moved_push (l : CommandList) (command : Recorded) :
    CommandList.moved { l with commands := l.commands.push command } =
      l.moved ++ command.issued.filter Command.moves := by
  rw [CommandList.moved_append (Array.toList_push ..), List.flatMap_singleton]

/-- A copy that is recorded lies inside both allocations, in whole groups of bytes. -/
theorem wp_copy (dst src : Pointer) (size : UInt64) (r : Recording) :
    (copy dst src size).wp
      (fun _ t => ∃ a b, r.live.device.buffers.get? src.allocId = some a ∧
        r.live.device.buffers.get? dst.allocId = some b ∧
        src.offset.toNat + resolveSize src.offset size a.size ≤ a.size ∧
        dst.offset.toNat + resolveSize src.offset size a.size ≤ b.size ∧
        ((isAligned src.offset.toNat = true ∧ isAligned dst.offset.toNat = true) ∧
          isAligned (resolveSize src.offset size a.size) = true) ∧
        t.list.moved = r.list.moved ++
          [.copy a.buffer src.offset.toNat b.buffer dst.offset.toNat
            (resolveSize src.offset size a.size)])
      (fun _ _ => True) r := by
  simp only [copy, wp_bind, wp_checkRecording, wp_checkOutsidePass, wp_onDevice, implies_true,
    and_true]
  intro _ _
  refine (Gpu.wp_checkedRange _ _ _).ok ?_
  rintro _ _ ⟨rfl, -, a, held, rfl, inside⟩
  refine (Gpu.wp_checkedRange _ _ _).ok ?_
  rintro _ _ ⟨rfl, -, b, held', rfl, fits⟩
  simp only [wp_require, wp_push, Bool.and_eq_true, implies_true, and_true]
  intro aligned
  have small := Nat.lt_of_le_of_lt (Nat.le_of_add_left_le inside) a.size_lt
  rw [resolveSize_ofNat small aligned.2] at fits
  exact ⟨a, b, held, held', inside, fits, aligned, moved_push _ _⟩

/-- What a fill records: nothing, a clear, or a copy of a new buffer that repeats the word. -/
inductive Fills (r : Recording) (buffer : Buffer) (offset length : Nat) (word : UInt32)
    (t : Recording) : Prop where
  | nothing (empty : length = 0) (moved : t.list.moved = r.list.moved)
  | clear (zero : word = 0) (moved : t.list.moved = r.list.moved ++ [.clear buffer offset length])
  | pattern (pattern : Buffer) (newest : pattern.id = r.live.platform.contents.length)
    (contents : t.live.platform.contents =
      r.live.platform.contents ++ [.ofWords (length / 4) fun _ => word])
    (moved : t.list.moved = r.list.moved ++ [.copy pattern 0 buffer offset length])

theorem wp_fill (p : Pointer) (size : UInt64) (word : UInt32) (r : Recording) :
    (fill p size word).wp
      (fun _ t => ∃ a, r.live.device.buffers.get? p.allocId = some a ∧
        p.offset.toNat + resolveSize p.offset size a.size ≤ a.size ∧
        (isAligned p.offset.toNat = true ∧ isAligned (resolveSize p.offset size a.size) = true) ∧
        Fills r a.buffer p.offset.toNat (resolveSize p.offset size a.size) word t)
      (fun _ _ => True) r := by
  simp only [fill, wp_bind, wp_checkRecording, wp_checkOutsidePass, wp_onDevice, implies_true,
    and_true]
  intro _ _
  refine (Gpu.wp_checkedRange _ _ _).ok ?_
  rintro _ _ ⟨rfl, -, a, held, rfl, inside⟩
  simp only [wp_require, Bool.and_eq_true, implies_true, and_true]
  intro aligned
  refine (wp_ite _ _).2 ⟨fun empty => ?_, fun _ => (wp_ite _ _).2 ⟨fun zero => ?_, fun _ => ?_⟩⟩
  · exact ⟨a, held, inside, aligned, .nothing empty rfl⟩
  · exact ⟨a, held, inside, aligned, .clear zero (moved_push _ _)⟩
  · rw [wp_bind, wp_onDevice, Gpu.wp_attempt, Platform.wp_createPattern]
    exact ⟨fun _ => ⟨a, held, inside, aligned, .pattern _ rfl rfl (moved_push _ _)⟩,
      fun _ => trivial⟩

end Recording

section

variable {r : Recording} {q : Placement} {effects : List Effect}

theorem Gpu.Stands.issued_copy {t : Live Gpu} (h : Gpu.Stands t q) {dst src : Pointer}
    {size : UInt64} {a b : BufferAllocation} (source : t.device.buffers.get? src.allocId = some a)
    (target : t.device.buffers.get? dst.allocId = some b)
    (inside : src.offset.toNat + resolveSize src.offset size a.size ≤ a.size)
    (fits : dst.offset.toNat + resolveSize src.offset size a.size ≤ b.size) :
    (q.blocks.copying dst src size).Issued q
      [.copy a.buffer src.offset.toNat b.buffer dst.offset.toNat
        (resolveSize src.offset size a.size)] := by
  obtain ⟨c, found, room, backs⟩ := h.backs source
  obtain ⟨c', found', room', backs'⟩ := h.backs target
  rw [← backs.length] at inside fits ⊢
  rw [← backs'.length] at fits
  rw [← room, ← room', Blocks.copying, Blocks.requested, Blocks.bytes_of_some found]
  exact .copy found inside found' fits

theorem Recording.copy_issues (h : Gpu.Stands r.live q) (issues : q.Issues effects r.list.moved)
    (dst src : Pointer) (size : UInt64) :
    (copy dst src size).wp
      (fun _ t => (q.on t.live.platform).Issues (effects ++ [q.blocks.copying dst src size])
        t.list.moved)
      (fun _ _ => True) r := by
  have still : (copy dst src size).Evolves Still := (RecordingCall.copy dst src size).framed
  refine ((still r).and (wp_copy dst src size r)).mono ?_ fun _ _ _ => trivial
  rintro _ t ⟨step, a, b, source, target, inside, fits, -, moved⟩
  obtain ⟨-, carries⟩ := h.extended step.memoryStill
  rw [moved]
  exact (carries.issues issues).snoc (carries.issued (h.issued_copy source target inside fits))

theorem Recording.Fills.issues (h : Gpu.Stands r.live q) {t : Recording}
    (step : Gpu.MemoryStill r.live t.live) {p : Pointer} {size : UInt64} {word : UInt32}
    {a : BufferAllocation} (target : r.live.device.buffers.get? p.allocId = some a)
    (fits : p.offset.toNat + resolveSize p.offset size a.size ≤ a.size)
    (aligned : isAligned (resolveSize p.offset size a.size) = true)
    (fills : Fills r a.buffer p.offset.toNat (resolveSize p.offset size a.size) word t)
    (issues : q.Issues effects r.list.moved) :
    (q.on t.live.platform).Issues (effects ++ [q.blocks.filling p size word]) t.list.moved := by
  obtain ⟨b, found, room, backs⟩ := h.backs target
  have issues := (h.extended step).2.issues issues
  rw [← backs.length] at fits aligned fills
  rw [← room] at fills
  rw [Blocks.filling, Blocks.requested, Blocks.bytes_of_some found]
  cases fills with
  | nothing empty moved =>
    rw [moved, empty, ← List.append_nil r.list.moved]
    exact issues.snoc .nothing
  | clear zero moved =>
    rw [moved, zero]
    exact issues.snoc (.clear found fits aligned)
  | pattern pattern newest contents moved =>
    -- The newest native buffer is later than any that a block lies in.
    rw [← h.contents] at newest contents
    rw [moved]
    refine issues.snoc (.pattern found fits aligned ⟨?_, fun found' same => ?_⟩ ?_)
    · rw [Placement.on, contents, newest, List.length_append]
      exact Nat.lt_succ_self _
    · exact absurd (h.sound.stored found') (Nat.not_lt.2 (Nat.le_of_eq (newest ▸ same.symm)))
    · rw [Placement.on, contents, Contents.of_append_new newest, Bytes.toBytes_ofWords]

theorem Recording.fill_issues (h : Gpu.Stands r.live q) (issues : q.Issues effects r.list.moved)
    (p : Pointer) (size : UInt64) (word : UInt32) :
    (fill p size word).wp
      (fun _ t => (q.on t.live.platform).Issues (effects ++ [q.blocks.filling p size word])
        t.list.moved)
      (fun _ _ => True) r := by
  have still : (fill p size word).Evolves Still := (RecordingCall.fill p size word).framed
  refine ((still r).and (wp_fill p size word r)).mono ?_ fun _ _ _ => trivial
  rintro _ t ⟨step, a, target, fits, ⟨-, aligned⟩, fills⟩
  exact fills.issues h step.memoryStill target fits aligned issues

/-- A recording call adds the commands of its effects, and if it fails, nothing that moves bytes. -/
theorem RecordingCall.issues (call : RecordingCall) (h : Gpu.Stands r.live q)
    (issues : q.Issues effects r.list.moved) :
    call.run.wp
      (fun _ t => (q.on t.live.platform).Issues (effects ++ call.effects q.blocks) t.list.moved)
      (fun _ t => (q.on t.live.platform).Issues effects t.list.moved) r := by
  have still : call.run.Evolves Recording.Still := call.framed
  have carried (t : Recording) (step : Recording.Still r t) (same : t.list.moved = r.list.moved) :
      (q.on t.live.platform).Issues effects t.list.moved :=
    same ▸ (h.extended step.memoryStill).2.issues issues
  cases defers : call.defers with
  | false =>
    -- Other calls record only commands that move nothing, whether they fail or not.
    rw [effects_of_not_defers defers, List.append_nil]
    refine ((still r).and (call.adds r)).mono ?_ ?_
    all_goals
      rintro _ t ⟨step, added⟩
      exact carried t step (moved_of_not_defers defers added)
  | true =>
    -- Copies and fills that fail leave the list as it was.
    have spares : call.run.Spares Recording.SameList := by
      refine RecordingCall.spares fun binder => ?_
      rintro rfl
      cases defers
    have issued : call.run.wp
        (fun _ t => (q.on t.live.platform).Issues (effects ++ call.effects q.blocks) t.list.moved)
        (fun _ _ => True) r := by
      cases call with
      | copy dst src size => exact Recording.copy_issues h issues dst src size
      | fill p size word => exact Recording.fill_issues h issues p size word
      | _ => cases defers
    refine (issued.and ((still r).and (spares r))).mono (fun _ _ => And.left) ?_
    rintro e t ⟨-, step, same⟩
    exact carried t step (congrArg CommandList.moved same)

end

/-! ## Queueing -/

theorem Recording.outcome_finalize (r : Recording) :
    finalize.outcome r =
      if r.list.finalized then (.ok none, r)
      else (.ok (some (encode r.list.closed)), { r with list := r.list.finished }) := by
  refine wp.outcome (P := fun o => o = _) (wp_finalize.2 ⟨fun finalized => ?_, fun recording => ?_⟩)
  · rw [finalized]
    rfl
  · rw [recording]
    rfl

theorem Blocks.of_run {m : Blocks} {effects : List Effect} {id : UInt32} {b' : KeptBlock}
    (found' : m.run effects id = some b') :
    ∃ b, m id = some b ∧ b'.params = b.params ∧ b'.copy = b.copy ∧ b'.live = b.live := by
  have patched {m : Blocks} {changed : UInt32} {offset : Nat} {data : Bytes} {b' : KeptBlock}
      (found' : m.patch changed offset data id = some b') :
      ∃ b, m id = some b ∧ b'.params = b.params ∧ b'.copy = b.copy ∧ b'.live = b.live := by
    rw [patch, alter, Function.update_apply] at found'
    split at found'
    · rename_i here
      obtain ⟨b, found, rfl⟩ := Option.map_eq_some_iff.1 found'
      exact ⟨b, here ▸ found, rfl, rfl, rfl⟩
    · exact ⟨b', found', rfl, rfl, rfl⟩
  -- From the last effect back to the first: each block that there is in the end was there before.
  induction effects generalizing m with
  | nil => exact ⟨b', found', rfl, rfl, rfl⟩
  | cons e effects ih =>
    obtain ⟨b₁, found₁, params, copy, live⟩ := ih found'
    obtain ⟨b, found, params', copy', live'⟩ : ∃ b, m id = some b ∧ b₁.params = b.params ∧
        b₁.copy = b.copy ∧ b₁.live = b.live := by
      cases e with
      | copy | fill => exact patched found₁
    exact ⟨b, found, params.trans params', copy.trans copy', live.trans live'⟩

namespace Gpu

variable {s t : Live Gpu} {q : Placement}

/-- Running commands that effects were recorded as, and others that move nothing, runs the
effects. -/
theorem Stands.ran (h : Stands s q) {effects : List Effect} {commands : List Command}
    (issues : q.Issues effects (commands.filter Command.moves))
    (buffers : t.device.buffers = s.device.buffers)
    (nextAlloc : t.device.nextAlloc = s.device.nextAlloc)
    (contents : t.platform.contents = runCommands s.platform.contents commands) :
    Follows (q.blocks.run effects) q t := by
  obtain ⟨sound, carries⟩ := h.sound.run issues
  refine ⟨_, ⟨sound, ?_, fun found' => ?_, fun held => ?_, fun found' live' => ?_⟩, rfl, carries⟩
  · rw [contents, ← h.contents]
    exact runCommands_filter _ _
  · obtain ⟨b, found, -⟩ := Blocks.of_run found'
    rw [nextAlloc]
    exact h.numbered found
  · rw [buffers] at held
    obtain ⟨b, found, room, backs⟩ := h.backs held
    obtain ⟨b', found', length⟩ := carries.block found
    obtain ⟨_, same, params, copy, live⟩ := Blocks.of_run found'
    cases found.symm.trans same
    refine ⟨b', found', room, live.trans backs.live, params.trans backs.params,
      length.trans backs.length, fun m mapping => ?_⟩
    rw [copy]
    exact backs.mapped m mapping
  · obtain ⟨b, found, -, -, live⟩ := Blocks.of_run found'
    rw [buffers]
    exact h.lives found (live.symm.trans live')

theorem Stands.submitted (h : Stands s q) {effects : List Effect} {commands : List Command}
    (issues : q.Issues effects (commands.filter Command.moves)) (label : EncoderLabel) :
    Follows (q.blocks.run effects) q
      { s with platform := (s.platform.submit label commands).2 } :=
  h.ran issues rfl rfl rfl

/-- Where a copy is made at once, it does what it would do when it is recorded and queued. -/
theorem follows_copyWithin (h : Stands s q) (dst : Pointer) (src : Range) :
    (copyWithin dst src).wp
      (fun copied t => copied = true →
        Follows (q.blocks.run [q.blocks.copying dst src.start src.length]) q t)
      (fun _ _ => True) s := by
  simp only [copyWithin, checkLocal, wp_bind, Live.wp_self, wp_require, wp_ite, wp_pure,
    implies_true, and_true]
  intro _
  refine ⟨by rintro _ ⟨⟩, fun _ => ?_⟩
  refine (wp_checkedRange _ _ _).ok ?_
  rintro _ _ ⟨rfl, -, a, source, rfl, inside⟩
  refine (wp_checkedRange _ _ _).ok ?_
  rintro _ _ ⟨rfl, -, b, target, rfl, fits⟩
  simp only [wp_discard, Live.wp_request, Bool.and_eq_true]
  refine ⟨?_, by rintro _ ⟨⟩⟩
  rintro ⟨-, aligned⟩ -
  have small := Nat.lt_of_le_of_lt (Nat.le_of_add_left_le inside) a.size_lt
  rw [resolveSize_ofNat small aligned] at fits
  have issued := q.issues_nil.snoc (h.issued_copy source target inside fits)
  exact h.submitted issued .transfer

end Gpu

/-- Queueing a list runs its commands, unless it was finalized before. -/
structure Recording.Runs (r t : Recording) : Prop where
  buffers : t.live.device.buffers = r.live.device.buffers
  nextAlloc : t.live.device.nextAlloc = r.live.device.nextAlloc
  contents : t.live.platform.contents =
    if r.list.finalized then r.live.platform.contents
    else runCommands r.live.platform.contents (encode r.list.closed)

theorem Recording.submit_runs (wait : Bool) (r : Recording) :
    (submit wait).wp (fun _ t => Runs r t) (fun _ t => Runs r t) r := by
  simp only [submit, wp_bind, wp_finalize, wp_orRefuse_none, wp_orRefuse_some]
  refine ⟨fun finalized => ⟨rfl, rfl, (if_pos finalized).symm⟩, fun recording => ?_⟩
  have queued : r.afterQueue.contents = if r.list.finalized then r.live.platform.contents
      else runCommands r.live.platform.contents (encode r.list.closed) := by
    rw [recording]
    rfl
  cases wait with
  | true =>
    simp only [wp_onDevice, Live.wp_request, if_true, Gpu.wait, wp_bind, Live.wp_self,
      Live.wp_onPlatform, Platform.wp_poll]
    exact ⟨fun _ => ⟨rfl, rfl, queued⟩, fun _ => ⟨rfl, rfl, queued⟩⟩
  | false =>
    simp only [wp_onDevice, Live.wp_request, Bool.false_eq_true, if_false, wp_bind, wp_current,
      Live.wp_self, wp_orRefuse, Live.wp_update]
    exact ⟨fun tracker _ => ⟨rfl, rfl, queued⟩, fun _ => ⟨rfl, rfl, queued⟩⟩

theorem Gpu.Follows.still {m : Blocks} {q : Placement} {t u : Live Gpu}
    (follows : Gpu.Follows m q t) (step : Gpu.MemoryStill t u) : Gpu.Follows m q u := by
  obtain ⟨q', stands, rfl, carries⟩ := follows
  obtain ⟨stands', carries'⟩ := stands.extended step
  exact ⟨_, stands', rfl, Evolution.trans carries carries'⟩

namespace CommandList.Bears

variable {s : Live Gpu} {q : Placement} {l : CommandList} {effects : Option (List Effect)}

theorem record (h : Gpu.Stands s q) (bears : l.Bears q effects) (call : RecordingCall) :
    call.run.wp
      (fun _ t => t.list.Bears (q.on t.live.platform)
        (effects.map (· ++ call.effects q.blocks)))
      (fun _ t => t.list.Bears (q.on t.live.platform) effects) ⟨s, l⟩ := by
  have adds := call.adds ⟨s, l⟩
  cases effects with
  | none =>
    exact adds.mono (fun _ _ kept => kept.finalized.trans bears)
      fun _ _ kept => kept.finalized.trans bears
  | some effects =>
    obtain ⟨recording, issues⟩ := bears
    have issued := call.issues (r := ⟨s, l⟩) h issues
    refine (adds.and issued).mono ?_ ?_
    all_goals
      rintro _ t ⟨kept, issues⟩
      exact ⟨kept.finalized.trans recording, issues⟩

/-- Queueing a list and dropping it runs the effects that it bears. -/
theorem submit (h : Gpu.Stands s q) (bears : l.Bears q effects) (wait : Bool) :
    (Recording.submit wait).wp
      (fun _ t => Gpu.Follows (q.blocks.run (effects.getD [])) q (Gpu.afterDrop t))
      (fun _ t => Gpu.Follows (q.blocks.run (effects.getD [])) q (Gpu.afterDrop t)) ⟨s, l⟩ := by
  have ran (t : Recording) (runs : Recording.Runs ⟨s, l⟩ t) :
      Gpu.Follows (q.blocks.run (effects.getD [])) q (Gpu.afterDrop t) := by
    obtain ⟨buffers, nextAlloc, contents⟩ := runs
    refine Gpu.Follows.still ?_ (Gpu.framed_afterDrop (S := Gpu.Still) t).memoryStill
    cases effects with
    | none =>
      have finalized : l.finalized = true := bears
      rw [if_pos finalized] at contents
      exact h.follows ⟨buffers, UInt32.le_of_eq nextAlloc.symm, .of_contents contents⟩
    | some effects =>
      obtain ⟨recording, issues⟩ := bears
      rw [recording] at contents
      exact h.ran (l.encode_moved.symm ▸ issues) buffers nextAlloc contents
  exact (Recording.submit_runs wait ⟨s, l⟩).mono (fun _ => ran) fun _ => ran

end CommandList.Bears

end DeviceLayer
