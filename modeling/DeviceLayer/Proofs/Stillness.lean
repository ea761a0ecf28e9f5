import DeviceLayer.Proofs.Bindings
import DeviceLayer.Proofs.ListFrames
import DeviceLayer.Proofs.Windows

/-!
# What leaves memory as it is

Only copies and clears move bytes. Recording makes native buffers at most, and so does a kernel: its
list holds a pipeline, bind groups and a dispatch.

* `runCommands_encode` — an encoded list moves what its copies and clears move.
* `Gpu.Still` — a device's allocations and what native buffers hold stay as they are.
* `Gpu.still_launchLocal` — a kernel is still.
* `Call.still` — so are all calls of a client but queueing a list and calls to the device itself.
-/

namespace DeviceLayer

open DeviceLayer.Action

/-! ## What an encoded list moves -/

def Command.moves : Command → Bool
  | .copy .. | .clear .. => true
  | _ => false

theorem Command.run_of_not_moves {command : Command} (still : command.moves = false)
    (c : Contents) : command.run c = c := by
  cases command with
  | copy | clear => cases still
  | _ => rfl

theorem runCommands_filter (c : Contents) (commands : List Command) :
    runCommands c (commands.filter Command.moves) = runCommands c commands := by
  induction commands generalizing c with
  | nil => rfl
  | cons command rest ih =>
    cases moves : command.moves with
    | true =>
      rw [List.filter_cons_of_pos moves]
      exact ih (command.run c)
    | false =>
      have skipped : ¬ command.moves = true := by simp [moves]
      rw [List.filter_cons_of_neg skipped, ih]
      exact congrArg (runCommands · rest) (Command.run_of_not_moves moves c).symm

theorem length_runCommands (c : Contents) (commands : List Command) :
    (runCommands c commands).length = c.length := by
  induction commands generalizing c with
  | nil => rfl
  | cons command rest ih => exact (ih _).trans (length_run c command)

namespace Replay

/-- The commands emitted so far that move bytes. -/
def moved (r : Replay) : List Command := r.trace.toList.filter Command.moves

@[simp] theorem moved_emit (r : Replay) (commands : List Command) :
    (r.emit commands).moved = r.moved ++ commands.filter Command.moves := by
  simp [moved, emit]

@[simp] theorem moved_close (r : Replay) : r.close.moved = r.moved := by
  unfold close
  split
  · rfl
  · exact (moved_emit r _).trans (List.append_nil _)
  · exact (moved_emit r _).trans (List.append_nil _)

theorem not_moves_preamble (r : Replay) : r.preamble.filter Command.moves = [] := by
  simp only [preamble, List.filter_append, List.filter_map]
  cases r.pipeline <;> simp [Command.moves, Function.comp_def]

@[simp] theorem moved_inCompute (r : Replay) : r.inCompute.moved = r.moved := by
  unfold inCompute
  split
  · rfl
  · refine (moved_emit r.close _).trans ?_
    rw [List.filter_cons_of_neg (by decide), not_moves_preamble, List.append_nil, moved_close]

theorem moved_ifRender {commands : List Command} (still : commands.filter Command.moves = [])
    (r : Replay) : (r.ifRender commands).moved = r.moved := by
  unfold ifRender
  split
  · rw [moved_emit, still, List.append_nil]
  · rfl

theorem moved_apply (r : Replay) (command : Recorded) :
    (r.apply command).moved = r.moved ++ command.issued.filter Command.moves := by
  have emitted (r' : Replay) (same : r'.moved = r.moved) (commands : List Command) :
      (r'.emit commands).moved = r.moved ++ commands.filter Command.moves := by
    rw [moved_emit, same]
  cases command with
  | renderPipeline | viewport | vertexBuffer | indexBuffer | draw | drawIndexed =>
    exact (moved_ifRender rfl r).trans (List.append_nil _).symm
  | computePipeline | dispatch => exact emitted _ r.moved_inCompute _
  | copy | clear | beginRenderPass => exact emitted _ r.moved_close _
  | endRenderPass => exact r.moved_close.trans (List.append_nil _).symm
  | bindGroup index group =>
    simp only [apply]
    split
    · exact emitted _ rfl _
    · exact emitted _ r.moved_inCompute _
  | barrier =>
    simp only [apply]
    split
    · exact r.moved_close.trans (List.append_nil _).symm
    · exact (List.append_nil _).symm

end Replay

theorem encode_filter (commands : List Recorded) :
    (encode commands).filter Command.moves =
      (commands.flatMap Recorded.issued).filter Command.moves := by
  have replayed (r : Replay) : (commands.foldl Replay.apply r).moved =
      r.moved ++ (commands.flatMap Recorded.issued).filter Command.moves := by
    induction commands generalizing r with
    | nil => exact (List.append_nil _).symm
    | cons command rest ih =>
      rw [List.foldl_cons, ih, Replay.moved_apply, List.flatMap_cons, List.filter_append,
        List.append_assoc]
  exact (Replay.moved_close _).trans (replayed {})

/-- An encoded list moves what was recorded to be moved, and nothing else. -/
theorem runCommands_encode (c : Contents) (commands : List Recorded) :
    runCommands c (encode commands) = runCommands c (commands.flatMap Recorded.issued) := by
  rw [← runCommands_filter c (encode commands), encode_filter, runCommands_filter]

/-- Whether a command was recorded to move bytes. -/
def Recorded.moves (command : Recorded) : Bool := command.issued.any Command.moves

theorem filter_issued_of_not_moves {commands : List Recorded}
    (still : ∀ command ∈ commands, command.moves = false) :
    (commands.flatMap Recorded.issued).filter Command.moves = [] := by
  refine List.filter_eq_nil_iff.2 fun command member => ?_
  obtain ⟨recorded, inList, issued⟩ := List.mem_flatMap.1 member
  exact List.any_eq_false.1 (still recorded inList) command issued

theorem runCommands_encode_of_not_moves {commands : List Recorded}
    (still : ∀ command ∈ commands, command.moves = false) (c : Contents) :
    runCommands c (encode commands) = c := by
  rw [runCommands_encode, ← runCommands_filter, filter_issued_of_not_moves still]
  rfl

namespace Gpu

/-- Allocations and what native buffers hold stay as they are; buffers may have been made. -/
structure Still (s t : Live Gpu) : Prop where
  assigned : t.device.assigned = s.device.assigned
  buffers : t.device.buffers = s.device.buffers
  images : t.device.images = s.device.images
  nextAlloc : s.device.nextAlloc ≤ t.device.nextAlloc
  platform : s.platform.Extends t.platform

instance : Evolution Still where
  refl _ := ⟨rfl, rfl, rfl, UInt32.le_refl _, Evolution.refl _⟩
  trans first second :=
    ⟨second.assigned.trans first.assigned, second.buffers.trans first.buffers,
      second.images.trans first.images, UInt32.le_trans first.nextAlloc second.nextAlloc,
      Evolution.trans first.platform second.platform⟩

instance : Growing Still where
  grows h := ⟨rfl, rfl, rfl, UInt32.le_refl _, h.extends⟩

instance : Frame Still :=
  .of fun h => ⟨h.assigned, h.buffers, h.images, h.nextAlloc, Evolution.refl _⟩

instance : ListFrame Still where
  custody _ _ := ⟨rfl, rfl, rfl, UInt32.le_refl _, Evolution.refl _⟩
  pool _ _ := ⟨rfl, rfl, rfl, UInt32.le_refl _, Evolution.refl _⟩
  polled _ := ⟨rfl, rfl, rfl, UInt32.le_refl _, .of_contents rfl⟩

theorem still_onPlatform {α : Type} {a : Action Platform α} (h : a.Evolves Platform.Extends) :
    (Live.onPlatform a : Action (Live Gpu) α).Evolves Still :=
  Live.evolves_onPlatform h fun _ _ step => ⟨rfl, rfl, rfl, UInt32.le_refl _, step⟩

theorem still_readRange (range : Range) : (readRange range).Evolves Still :=
  (evolves_checkedRange _ _).bind fun _ => still_onPlatform (Platform.extends_readBuffer _ _ _)

end Gpu

namespace Recording

/-- Recording leaves memory as it is. -/
def Still (r t : Recording) : Prop := Gpu.Still r.live t.live

instance : Frame Still := inferInstanceAs (Frame (OfLive Gpu.Still))

instance : Gpu.Growing (OnLive Still) := inferInstanceAs (Gpu.Growing (OnLive (OfLive Gpu.Still)))

theorem Adds.mono {allowed allowed' : Recorded → Bool} {r t : Recording} (h : Adds allowed r t)
    (weaker : ∀ command, allowed command = true → allowed' command = true) :
    Adds allowed' r t := by
  obtain ⟨added, commands, each⟩ := h.commands
  exact ⟨h.finalized, added, commands, fun command member => weaker command (each command member)⟩

end Recording

/-- Queueing a list that moves nothing leaves memory as it is. -/
theorem SubmitEnd.still {r t : Recording} {wait : Bool} {result : Except Fault Unit}
    (ended : SubmitEnd r wait result t)
    (still : ∀ command ∈ r.list.commands.toList, command.moves = false) :
    Gpu.Still r.live t.live := by
  have closed : ∀ command ∈ r.list.closed, command.moves = false := by
    intro command member
    rcases List.mem_append.1 member with recorded | closing
    · exact still command recorded
    · split at closing
      · cases List.mem_singleton.1 closing
        rfl
      · cases closing
  have same : runCommands r.live.platform.contents (encode r.list.closed) =
      r.live.platform.contents := runCommands_encode_of_not_moves closed _
  cases ended with
  | refused => exact Evolution.refl r.live
  | waited | waitFailed | marked | twice =>
    exact ⟨rfl, rfl, rfl, UInt32.le_refl _, .of_contents same⟩

namespace Recording

/-- Memory stays as it is, and the list still records, with nothing added to it that moves bytes. -/
structure Prepares (r t : Recording) : Prop where
  still : Still r t
  adds : Adds (fun command => !command.moves) r t

instance : Evolution Prepares where
  refl r := ⟨Evolution.refl r, Evolution.refl r⟩
  trans first second :=
    ⟨Evolution.trans first.still second.still, Evolution.trans first.adds second.adds⟩

end Recording

/-- The calls that a kernel's list is recorded with. -/
def RecordingCall.ofKernel : RecordingCall → Bool
  | .bindPipeline _ | .bindResources _ | .dispatch .. => true
  | _ => false

theorem RecordingCall.prepares (call : RecordingCall) (ofKernel : call.ofKernel = true) :
    call.run.Evolves Recording.Prepares := by
  intro r
  have still : call.run.Evolves Recording.Still := call.framed
  have weaker (t : Recording) (step : Recording.Still r t ∧ Recording.Adds call.mayRecord r t) :
      Recording.Prepares r t := by
    refine ⟨step.1, step.2.mono fun command allowed => ?_⟩
    cases call with
    | bindPipeline | bindResources | dispatch =>
      cases command with
      | copy | clear => cases allowed
      | _ => rfl
    | _ => cases ofKernel
  exact ((still r).and (call.adds r)).mono (fun _ => weaker) fun _ => weaker

namespace Gpu

theorem still_queue (kernel : Kernel) (binder : Binder) {r : Recording}
    (empty : r.list.commands = #[]) :
    (kernel.queue binder).wp (fun _ t => Still r.live t.live)
      (fun _ t => Still r.live t.live) r := by
  have submits (r' : Recording) (prepared : Recording.Prepares r r') :
      (Recording.submit false).wp (fun _ t => Still r.live t.live)
        (fun _ t => Still r.live t.live) r' := by
    obtain ⟨added, commands, each⟩ := prepared.adds.commands
    have still : ∀ command ∈ r'.list.commands.toList, command.moves = false := by
      rw [commands, empty]
      exact fun command member => by simpa using each command member
    refine (Recording.submit_ends r' false).mono (fun _ t ended => ?_) fun _ t ended => ?_
    · exact Evolution.trans prepared.still (ended.still still)
    · exact Evolution.trans prepared.still (ended.still still)
  have bindPipeline := RecordingCall.prepares (.bindPipeline kernel.pipeline) rfl
  have bindResources := RecordingCall.prepares (.bindResources binder) rfl
  simp only [Kernel.queue, wp_bind]
  refine (bindPipeline r).mono (fun _ r₁ first => ?_) fun _ _ step => step.still
  refine (bindResources r₁).mono (fun _ r₂ second => ?_) fun _ _ step =>
    (Evolution.trans first step).still
  have second := Evolution.trans first second
  refine (RecordingCall.prepares (.dispatch _ _ _) rfl r₂).mono (fun _ r₃ third => ?_)
    fun _ _ step => (Evolution.trans second step).still
  exact submits r₃ (Evolution.trans second third)

/-- Running a kernel leaves memory as it is, as far as dispatches do. -/
theorem still_launchLocal (stream number : UInt32) (mapping : Mapping) :
    (launchLocal stream number mapping).Evolves Still := by
  refine (evolves_prepareLaunch _ _ _).bind fun (kernel, binder) => ?_
  intro s
  rw [wp_bind]
  refine (wp_newList_framed s).mono ?_ fun _ _ step => step
  rintro _ t ⟨⟨buffer, rfl⟩, made⟩
  have dropped (r : Recording) (step : Still t r.live) : Still s (afterDrop r) :=
    Evolution.trans made (Evolution.trans step (framed_afterDrop r))
  exact wp_usingList.2 ((still_queue kernel binder rfl).mono (fun _ => dropped) fun _ => dropped)

end Gpu

/-! ## Calls of a client -/

/-- The calls that can change what the device holds. -/
def Call.stirs : Call → Bool
  | .submit .. | .device _ => true
  | _ => false

theorem Call.still (call : Call) (calm : call.stirs = false) (c : Client) :
    Gpu.Still c.live (call.step c).2.live := by
  cases call with
  | submit | device => cases calm
  | newList => exact c.framed_newList
  | record i call => exact c.framed_onList i call.framed
  | finalize i => exact c.framed_onList i Recording.framed_finalize.discard
  | drop i => exact c.framed_drop i
  | sync => exact Gpu.framed_commandSync.outcome c.live
  | launch stream kernel mapping =>
    have launched := (Gpu.still_launchLocal stream kernel mapping).outcome c.live
    rwa [← Client.launch_step] at launched
  | script answers => exact ⟨rfl, rfl, rfl, UInt32.le_refl _, .of_contents rfl⟩

end DeviceLayer
