import DeviceLayer.Proofs.Actions
import DeviceLayer.Proofs.Calls

/-!
# What device calls leave alone

A device keeps track of command buffers, of what is in flight and of descriptor pools. No call to
the device itself touches that; only the life of command lists does.

* `Contents.Gains` — native buffers stay, and lose no byte.
* `Platform.Advances`, `Works` — more may be queued, and more be known to have run.
* `Platform.Makes` — objects are made, but no native pipelines for rendering.
* `Gpu.custody` — what a device keeps about its command lists.
* `Gpu.Quiet` — custody stays as it is.
* `Gpu.Basis`, `Gpu.Frame` — relations that allow what requests for anything but memory and images
  do, those for cached objects left out or not.
* `Gpu.Growing` — relations that allow native pipelines for rendering too.
* `Gpu.ImageBasis`, `Gpu.MemoryFrame` — relations that allow what becomes of images, or of memory.
* `DeviceCall.framed`, `framedImage`, `framedMemory` — device calls do no more than that.
* `DeviceCall.quiet` — every device call is quiet, also when it fails.
-/

namespace DeviceLayer

open DeviceLayer.Action

/-- The events that ask the queue for something. -/
def Event.queues : Event → Bool
  | .writeBuffer .. | .submit .. => true
  | _ => false

/-- The native pipeline that was built for rendering, with what it was built from. -/
def Event.renderPipeline? : Event → Option (NativePipeline × RenderPipelineDesc)
  | .createRenderPipeline pipeline desc => some (pipeline, desc)
  | _ => none

namespace Contents

/-- No buffer goes, and none becomes shorter. -/
structure Gains (c c' : Contents) : Prop where
  length : c.length ≤ c'.length
  size : ∀ b : Buffer, b.id < c.length → (c.of b).size ≤ (c'.of b).size

instance : Evolution Gains where
  refl _ := ⟨Nat.le_refl _, fun _ _ => Nat.le_refl _⟩
  trans first second := by
    refine ⟨Nat.le_trans first.length second.length, fun b known => ?_⟩
    exact Nat.le_trans (first.size b known)
      (second.size b (Nat.lt_of_lt_of_le known first.length))

variable {c c' : Contents}

theorem gains_prefix (h : c <+: c') : c.Gains c' := by
  obtain ⟨more, rfl⟩ := h
  refine ⟨by simp, fun b known => Nat.le_of_eq ?_⟩
  rw [of_append known]

/-- A write that goes past the end of a buffer makes it longer. -/
theorem gains_write (c : Contents) (b : Buffer) (offset : Nat) (data : Storage) :
    c.Gains (c.write b offset data) := by
  refine ⟨by simp [write], fun other known => ?_⟩
  by_cases same : other.id = b.id
  · rw [of_congr same, of_congr same, of_write_self (same ▸ known)]
    simp only [← Storage.length_toBytes, Storage.toBytes_splice, Bytes.splice, List.length_append,
      List.length_take, List.length_drop]
    omega
  · exact Nat.le_of_eq (congrArg Storage.size (of_write_of_ne same c offset data)).symm

end Contents

theorem gains_runCommands (c : Contents) (commands : List Command) :
    c.Gains (runCommands c commands) := by
  induction commands generalizing c with
  | nil => exact Evolution.refl c
  | cons command commands ih =>
    have step : c.Gains (command.run c) := by
      cases command with
      | copy | clear => exact c.gains_write _ _ _
      | _ => exact Evolution.refl c
    exact Evolution.trans step (ih _)

namespace Platform

/-- What the queue was asked for so far. -/
def asked (p : Platform) : List Event := p.log.filter Event.queues

/-- No wait has gone past what was queued. -/
def Orderly (p : Platform) : Prop := ∀ c, p.finishedOn c ≤ p.submissions

/-- More may have been queued, and more be known to have run. -/
structure Advances (p q : Platform) : Prop where
  submissions : p.submissions ≤ q.submissions
  finished : ∀ c, p.finishedOn c ≤ q.finishedOn c
  orderly : p.Orderly → q.Orderly

instance : Evolution Advances where
  refl _ := ⟨Nat.le_refl _, fun _ => Nat.le_refl _, id⟩
  trans first second :=
    ⟨Nat.le_trans first.submissions second.submissions,
      fun c => Nat.le_trans (first.finished c) (second.finished c), second.orderly ∘ first.orderly⟩

/-- Nothing was queued or waited for. -/
structure Idle (p q : Platform) : Prop where
  submissions : q.submissions = p.submissions
  finished : q.finished = p.finished

/-- Objects may have been made, but no time passed and no byte moved. -/
structure Grows (p q : Platform) : Prop extends Idle p q where
  contents : p.contents <+: q.contents
  asked : q.asked = p.asked
  layouts : p.names.layouts ≤ q.names.layouts
  defects : q.script.groupDefect = p.script.groupDefect

/-- The native pipelines that were built for rendering, in order. -/
def renderPipelines (p : Platform) : List (NativePipeline × RenderPipelineDesc) :=
  p.log.filterMap Event.renderPipeline?

/-- No native pipeline was built for rendering, and each pipeline has those that it had. -/
structure KeepsVariants (p q : Platform) : Prop where
  variants : ∀ id, q.variantsOf id = p.variantsOf id
  known : p.variants.length ≤ q.variants.length
  renderPipelines : q.renderPipelines = p.renderPipelines
  named : q.names.renderPipelines = p.names.renderPipelines

instance : Evolution KeepsVariants where
  refl _ := ⟨fun _ => rfl, Nat.le_refl _, rfl, rfl⟩
  trans first second :=
    ⟨fun id => (second.variants id).trans (first.variants id),
      Nat.le_trans first.known second.known,
      second.renderPipelines.trans first.renderPipelines, second.named.trans first.named⟩

theorem KeepsVariants.told {p q : Platform} {e : Event} (variants : q.variants = p.variants)
    (named : q.names.renderPipelines = p.names.renderPipelines) (log : q.log = p.log ++ [e])
    (other : e.renderPipeline? = none) : p.KeepsVariants q := by
  refine ⟨fun id => ?_, Nat.le_of_eq (congrArg List.length variants).symm, ?_, named⟩
  · rw [variantsOf, variantsOf, variants]
  · simp [Platform.renderPipelines, log, other]

/-- Objects may have been made, but no native pipelines for rendering. -/
structure Makes (p q : Platform) : Prop extends Grows p q, KeepsVariants p q

theorem Makes.refl (p : Platform) : p.Makes p :=
  ⟨⟨⟨rfl, rfl⟩, List.prefix_refl _, rfl, Nat.le_refl _, rfl⟩, Evolution.refl p⟩

/-- What was made was noted in the trace. -/
theorem Grows.told {p q : Platform} {e : Event} (idle : p.Idle q)
    (contents : p.contents <+: q.contents) (layouts : p.names.layouts ≤ q.names.layouts)
    (log : q.log = p.log ++ [e]) (other : e.queues = false)
    (defects : q.script.groupDefect = p.script.groupDefect) : p.Grows q := by
  refine ⟨idle, contents, ?_, layouts, defects⟩
  have skipped : ¬e.queues = true := by simp [other]
  rw [Platform.asked, Platform.asked, log, List.filter_append, List.filter_cons_of_neg skipped,
    List.filter_nil, List.append_nil]

theorem Makes.told {p : Platform} {contents : Contents} {names : NameCounts} {rolls : Rolls}
    {e : Event} (kept : p.contents <+: contents) (layouts : p.names.layouts ≤ names.layouts)
    (named : names.renderPipelines = p.names.renderPipelines) (queues : e.queues = false)
    (other : e.renderPipeline? = none) :
    p.Makes (record { p with contents, names, rolls } e) :=
  ⟨.told ⟨rfl, rfl⟩ kept layouts rfl queues rfl, .told rfl named rfl other⟩

/-- Naming an object takes back no name of a layout. -/
theorem layouts_take_le (names : NameCounts) (kind : ObjectClass) :
    names.layouts ≤ (names.take kind).2.layouts := by
  cases kind with
  | layout => exact Nat.le_succ _
  | _ => exact Nat.le_refl _

theorem makes_makeBuffer (c : Connection) (purpose : BufferPurpose) (size : Nat) (p : Platform) :
    p.Makes (p.makeBuffer c purpose size).2 := by
  have named : (p.names.take purpose.kind).2.renderPipelines = p.names.renderPipelines := by
    cases purpose <;> rfl
  exact .told (List.prefix_append _ _) (layouts_take_le _ _) named rfl rfl

/-- The library makes a new buffer, or nothing. -/
@[simp] theorem wp_createBuffer {Q : Buffer → Platform → Prop} {E : Fault → Platform → Prop}
    {p : Platform} (c : Connection) (purpose : BufferPurpose) (size : Nat) :
    (createBuffer c purpose size).wp Q E p ↔
      (size ≤ c.limits.maxBufferSize.toNat →
        Q (p.makeBuffer c purpose size).1 (p.makeBuffer c purpose size).2) ∧
      (c.limits.maxBufferSize.toNat < size →
        E (.native (.buffer purpose.label size c.limits.maxBufferSize)) p) := by
  simp only [createBuffer, checkSize, wp_bind, wp_ite, wp_pure, wp_throw, wp_modifyGet,
    Nat.not_le]

@[simp] theorem wp_createPattern {Q : Buffer → Platform → Prop} {E : Fault → Platform → Prop}
    {p : Platform} (c : Connection) (n : Nat) (word : UInt32) :
    (createPattern c n word).wp Q E p ↔
      (4 * n ≤ c.limits.maxBufferSize.toNat →
        Q (p.makePattern c n word).1 (p.makePattern c n word).2) ∧
      (c.limits.maxBufferSize.toNat < 4 * n →
        E (.native (.buffer BufferPurpose.pattern.label (4 * n) c.limits.maxBufferSize)) p) := by
  simp only [createPattern, checkSize, wp_bind, wp_ite, wp_pure, wp_throw, wp_modifyGet,
    Nat.not_le]

/-- The library makes a bind group, unless it has something against its windows. -/
@[simp] theorem wp_createBindGroup {Q : BindGroup → Platform → Prop}
    {E : Fault → Platform → Prop} {p : Platform} (c : Connection) (windows : BindWindows) :
    (createBindGroup c windows).wp Q E p ↔
      (p.script.groupDefect windows = none →
        Q (p.makeBindGroup c windows).1 (p.makeBindGroup c windows).2) ∧
      (∀ words, p.script.groupDefect windows = some words →
        E (.native (.bindGroup words)) p) := by
  rw [createBindGroup, wp_bind, wp_get]
  cases p.script.groupDefect windows <;> simp

theorem makes_createBuffer (c : Connection) (purpose : BufferPurpose) (size : Nat) :
    (createBuffer c purpose size).Evolves Makes :=
  fun p => (wp_createBuffer ..).2 ⟨fun _ => makes_makeBuffer .., fun _ => .refl p⟩

theorem makes_createPattern (c : Connection) (n : Nat) (word : UInt32) :
    (createPattern c n word).Evolves Makes := by
  refine fun p => (wp_createPattern ..).2 ⟨fun _ => ?_, fun _ => .refl p⟩
  exact .told (List.prefix_append _ _) (Nat.le_refl _) rfl rfl rfl

theorem makes_createBindGroup (c : Connection) (windows : BindWindows) :
    (createBindGroup c windows).Evolves Makes := by
  refine fun p => (wp_createBindGroup ..).2 ⟨fun _ => ?_, fun _ _ => .refl p⟩
  exact .told (List.prefix_refl _) (Nat.le_refl _) rfl rfl rfl

theorem grows_createRenderPipeline (c : Connection) (desc : RenderPipelineDesc) (p : Platform) :
    p.Grows (p.createRenderPipeline c desc).2 :=
  .told ⟨rfl, rfl⟩ (List.prefix_refl _) (Nat.le_refl _) rfl rfl rfl

theorem Idle.advances {p q : Platform} (idle : p.Idle q) : p.Advances q := by
  have same (c : Connection) : q.finishedOn c = p.finishedOn c := by
    rw [finishedOn, finishedOn, idle.finished]
  -- What was waited for and what was queued are both as before, so one still bounds the other.
  refine ⟨Nat.le_of_eq idle.submissions.symm, fun c => Nat.le_of_eq (same c).symm, ?_⟩
  intro orderly c
  rw [same, idle.submissions]
  exact orderly c

/-- A relation that allows at least making objects and moving bytes, which take no time. -/
class Timing (R : Platform → Platform → Prop) : Prop extends Evolution R where
  idle : ∀ {p q : Platform}, q.submissions = p.submissions → q.finished = p.finished → R p q

instance : Timing Advances where
  idle submissions finished := Idle.advances ⟨submissions, finished⟩

instance : Timing Idle where
  refl _ := ⟨rfl, rfl⟩
  trans first second :=
    ⟨second.submissions.trans first.submissions, second.finished.trans first.finished⟩
  idle := Idle.mk

theorem advances_submit (label : EncoderLabel) (commands : List Command) (p : Platform) :
    p.Advances (p.submit label commands).2 where
  submissions := Nat.le_succ _
  finished _ := Nat.le_refl _
  orderly orderly c := Nat.le_trans (orderly c) (Nat.le_succ _)

theorem finishedOn_polled (c d : Connection) (fence : Option Fence) (p : Platform) :
    (p.polled c fence).finishedOn d =
      if p.script.nextPoll = true ∧ d.index = c.index then
        max (p.finishedOn c) ((fence.map (· + 1)).getD p.submissions)
      else p.finishedOn d := by
  by_cases succeeds : p.script.nextPoll = true
  · by_cases same : d.index = c.index
    · simp [polled, finishedOn, record, succeeds, same, SortedMap.get?_insert_self]
    · simp [polled, finishedOn, record, succeeds, same, SortedMap.get?_insert_of_ne]
  · simp [polled, finishedOn, record, succeeds]

/-- A poll waits for work that was queued before. -/
theorem advances_polled {p : Platform} (c : Connection) (fence : Option Fence)
    (queued : ∀ f, fence = some f → f < p.submissions) : p.Advances (p.polled c fence) where
  submissions := Nat.le_refl _
  finished d := by
    rw [finishedOn_polled]
    split
    · rename_i h
      rw [finishedOn, h.2]
      exact Nat.le_max_left _ _
    · exact Nat.le_refl _
  orderly orderly d := by
    have bound : (fence.map (· + 1)).getD p.submissions ≤ p.submissions := by
      cases fence with
      | none => exact Nat.le_refl _
      | some f => exact queued f rfl
    rw [finishedOn_polled]
    split
    · exact Nat.max_le.2 ⟨orderly c, bound⟩
    · exact orderly d

/-- Work may have been queued or waited for, and objects been made, but no native pipelines for
rendering. -/
structure Works (p q : Platform) : Prop extends Advances p q, KeepsVariants p q where
  layouts : p.names.layouts ≤ q.names.layouts
  contents : p.contents.Gains q.contents

instance : Evolution Works where
  refl _ := ⟨Evolution.refl _, Evolution.refl _, Nat.le_refl _, Evolution.refl _⟩
  trans first second := ⟨Evolution.trans first.toAdvances second.toAdvances,
    Evolution.trans first.toKeepsVariants second.toKeepsVariants,
    Nat.le_trans first.layouts second.layouts, Evolution.trans first.contents second.contents⟩

theorem Makes.works {p q : Platform} (h : p.Makes q) : p.Works q :=
  ⟨h.toIdle.advances, h.toKeepsVariants, h.layouts, Contents.gains_prefix h.contents⟩

theorem works_submit (label : EncoderLabel) (commands : List Command) (p : Platform) :
    p.Works (p.submit label commands).2 :=
  ⟨advances_submit label commands p, .told rfl rfl rfl rfl, Nat.le_refl _, gains_runCommands _ _⟩

theorem keepsVariants_polled (c : Connection) (fence : Option Fence) (p : Platform) :
    p.KeepsVariants (p.polled c fence) := .told rfl rfl rfl rfl

theorem works_polled {p : Platform} (c : Connection) (fence : Option Fence)
    (queued : ∀ f, fence = some f → f < p.submissions) : p.Works (p.polled c fence) :=
  ⟨advances_polled c fence queued, keepsVariants_polled c fence p, Nat.le_refl _,
    Evolution.refl _⟩

/-- Polls end in one state, whether they succeed or fail. -/
theorem wp_poll {Q : Unit → Platform → Prop} {E : Fault → Platform → Prop} {p : Platform}
    (c : Connection) (fence : Option Fence) :
    (poll c fence).wp Q E p ↔
      (p.script.nextPoll = true → Q () (p.polled c fence)) ∧
        (p.script.nextPoll = false → E (.device (.backend .pollTimeout)) (p.polled c fence)) := by
  unfold wp poll
  cases p.script.nextPoll <;> simp

theorem evolves_checkBounds {R : Platform → Platform → Prop} [Evolution R] (b : Buffer)
    (first past : Nat) : (checkBounds b first past).Evolves R :=
  Evolves.get.bind fun _ => .require _ _

/-- A new pipeline has no variants. -/
theorem keepsVariants_registerPipeline (p : Platform) : p.KeepsVariants p.registerPipeline.2 := by
  refine ⟨fun id => ?_, ?_, rfl, rfl⟩
  · simp only [variantsOf, registerPipeline, List.getD_eq_getElem?_getD, List.getElem?_append,
      List.getElem?_singleton]
    grind
  · simp [registerPipeline]

theorem works_readBuffer (b : Buffer) (offset size : Nat) :
    (readBuffer b offset size).Evolves Works := by
  unfold readBuffer
  split
  · exact .pure _
  · refine (Evolves.check _).bind fun past => (evolves_checkBounds _ _ _).bind fun _ => ?_
    -- The fence of the poll is the submission just made, so the three go together.
    intro p
    have made := (makes_makeBuffer b.connection .staging (past - alignDown offset) p).works
    have queued := Evolution.trans made (works_submit .readback
      [.copy b (alignDown offset) (p.makeBuffer b.connection .staging (past - alignDown offset)).1
        0 (past - alignDown offset)] _)
    have waited := Evolution.trans queued (works_polled b.connection (some _)
      fun f same => Option.some.inj same ▸ Nat.lt_succ_self _)
    simp only [wp_bind, wp_createBuffer, wp_modifyGet, wp_poll, wp_get, wp_pure]
    exact ⟨fun _ => ⟨fun _ => waited, fun _ => waited⟩, fun _ => Evolution.refl p⟩

theorem works_writeBuffer (b : Buffer) (offset : Nat) (data : Storage) :
    (writeBuffer b offset data).Evolves Works := by
  have write (offset : Nat) (data : Storage) :
      (modify (queueWrite b offset data) : Action Platform Unit).Evolves Works :=
    fun p => ⟨Timing.idle rfl rfl, .told rfl rfl rfl rfl, Nat.le_refl _,
      p.contents.gains_write b offset data⟩
  unfold writeBuffer
  split
  · exact .pure _
  · refine (Evolves.check _).bind fun past => (evolves_checkBounds _ _ _).bind fun _ => ?_
    -- Bytes that are not aligned are read back first and written with the window around them.
    split
    · exact write _ _
    · exact (works_readBuffer _ _ _).bind fun _ => write _ _

end Platform

namespace Gpu

/-- The descriptor pool of a layout; a layout that is not known has made no sets. -/
def poolOf (g : Gpu) (layout : CacheHandle) : DescriptorPool UInt32 :=
  ((g.layouts.get? layout).map (·.pool)).getD {}

/-- What a device keeps about its command lists. -/
structure Custody where
  tracker : SubmissionTracker CommandBufferId SetHandle Platform.Fence
  nextCommandBuffer : UInt32
  pools : CacheHandle → DescriptorPool UInt32

def custody (g : Gpu) : Custody := ⟨g.tracker, g.nextCommandBuffer, g.poolOf⟩

/-- Custody stays as it is while the platform moves by `R`. -/
structure Quiet (R : Platform → Platform → Prop) (s t : Live Gpu) : Prop where
  connection : t.device.connection = s.device.connection
  custody : t.device.custody = s.device.custody
  platform : R s.platform t.platform

variable {R : Platform → Platform → Prop}

variable [Platform.Timing R]

instance : Evolution (Quiet R) where
  refl _ := ⟨rfl, rfl, Evolution.refl _⟩
  trans first second :=
    ⟨second.connection.trans first.connection, second.custody.trans first.custody,
      Evolution.trans first.platform second.platform⟩

/-- Numbers that are given out go up. -/
theorem takeNumber_eq_ok {counter id next : UInt32}
    (taken : takeNumber counter = .ok (id, next)) : id = counter ∧ counter < next := by
  unfold takeNumber at taken
  split at taken
  · cases taken
  · rename_i small
    cases taken
    have below : counter.toNat ≠ 0xFFFFFFFF := fun same => small (UInt32.toNat_inj.1 same)
    have bound := counter.toNat_lt
    refine ⟨rfl, UInt32.lt_iff_toNat_lt.2 ?_⟩
    rw [UInt32.toNat_add, UInt32.toNat_one]
    omega

/-- What requests for anything but memory leave alone. -/
structure Keeps (g g' : Gpu) : Prop where
  assigned : g'.assigned = g.assigned
  connection : g'.connection = g.connection
  limits : g'.limits = g.limits
  custody : g'.custody = g.custody
  buffers : g'.buffers = g.buffers
  images : g'.images = g.images
  nextAlloc : g.nextAlloc ≤ g'.nextAlloc

/-- What the requests for cached objects and for the placeholder change is left alone as well. -/
structure Rests (g g' : Gpu) : Prop extends Keeps g g' where
  placeholder : g'.placeholder = g.placeholder
  layouts : g'.layouts = g.layouts
  passes : g'.passes = g.passes
  framebuffers : g'.framebuffers = g.framebuffers

/-- A relation that allows at least to make objects that are not kept, neither in a cache of the
device nor as variants of a pipeline. -/
class Basis (S : Live Gpu → Live Gpu → Prop) : Prop extends Evolution S where
  rests : ∀ {s : Live Gpu} {g : Gpu}, s.device.Rests g → S s { s with device := g }
  makes : ∀ {s : Live Gpu} {p : Platform}, s.platform.Makes p → S s { s with platform := p }

/-- A relation that allows at least to make objects of all kinds, variants of pipelines as well. -/
class Growing (S : Live Gpu → Live Gpu → Prop) : Prop extends Evolution S where
  grows : ∀ {s : Live Gpu} {p : Platform}, s.platform.Grows p → S s { s with platform := p }

/-- A relation that allows at least what such requests do. -/
class Frame (S : Live Gpu → Live Gpu → Prop) : Prop extends Basis S where
  placeholderFor : ∀ minSize, (placeholderFor minSize).Evolves S
  setLayout : ∀ slots, (setLayout slots).Evolves S
  renderPass : ∀ desc, (renderPass desc).Evolves S
  framebuffer : ∀ desc, (framebuffer desc).Evolves S

/-- A relation that allows at least that images come and go. -/
class ImageBasis (S : Live Gpu → Live Gpu → Prop) : Prop extends Basis S where
  images : ∀ {s : Live Gpu} (images : SortedMap UInt32 Image),
    S s { s with device := { s.device with images } }

/-- A relation that allows images to come and go too. -/
class ImageFrame (S : Live Gpu → Live Gpu → Prop) : Prop extends Frame S, ImageBasis S

/-- A relation that allows memory to be worked on too. -/
class MemoryFrame (S : Live Gpu → Live Gpu → Prop) : Prop extends Frame S where
  buffers : ∀ {s : Live Gpu} (buffers : SortedMap UInt32 BufferAllocation),
    S s { s with device := { s.device with buffers } }
  works : ∀ {s : Live Gpu} {p : Platform}, s.platform.Works p → S s { s with platform := p }

/-! ## Looking at the device -/

theorem wp_attempt {α : Type} {Q : α → Live Gpu → Prop} {E : Fault → Live Gpu → Prop}
    {s : Live Gpu} (f : Connection → Action Platform α) :
    (attempt f).wp Q E s ↔
      (f s.device.connection).wp (fun x p => Q x { s with platform := p })
        (fun e p => E e { s with platform := p }) s.platform := by
  rw [attempt, wp_bind, Live.wp_self, Live.wp_onPlatform]

section

variable {S : Live Gpu → Live Gpu → Prop} [Evolution S]

theorem evolves_self : (Live.self : Action (Live Gpu) Gpu).Evolves S := Live.evolves_self

theorem evolves_checkLocal (target : DeviceId) : (checkLocal target).Evolves S :=
  evolves_self.bind fun _ => .require _ _

theorem evolves_registeredId : registeredId.Evolves S :=
  evolves_self.bind fun _ => (Evolves.require _ _).bind fun _ => .pure _

theorem evolves_allocation (id : UInt32) : (allocation id).Evolves S :=
  evolves_self.bind fun _ => .orRefuse _ _

theorem evolves_resolve (pointer : Pointer) : (resolve pointer).Evolves S :=
  (evolves_checkLocal _).bind fun _ => evolves_allocation _

theorem evolves_checkedRange (pointer : Pointer) (size : UInt64) :
    (checkedRange pointer size).Evolves S :=
  (evolves_resolve _).bind fun _ => (Evolves.require _ _).bind fun _ => .pure _

theorem evolves_bufferSlice (pointer : Pointer) : (bufferSlice pointer).Evolves S :=
  (evolves_resolve _).bind fun _ => (Evolves.require _ _).bind fun _ => .pure _

theorem evolves_layoutEntry (handle : CacheHandle) : (layoutEntry handle).Evolves S :=
  evolves_self.bind fun _ => .orRefuse _ _

theorem evolves_image (id : UInt32) : (image id).Evolves S :=
  evolves_self.bind fun _ => .orRefuse _ _

theorem evolves_imageTarget (alloc : Allocation) : (imageTarget alloc).Evolves S :=
  (evolves_checkLocal _).bind fun _ => (evolves_image _).bind fun _ =>
    (Evolves.orRefuse _ _).bind fun _ => .pure _

theorem evolves_renderPassInfo (handle : CacheHandle) : (renderPassInfo handle).Evolves S :=
  evolves_self.bind fun _ => .orRefuse _ _

theorem evolves_framebufferInfo (handle : CacheHandle) : (framebufferInfo handle).Evolves S :=
  evolves_self.bind fun _ => .orRefuse _ _

theorem evolves_prepareLaunch (stream number : UInt32) (mapping : Mapping) :
    (prepareLaunch stream number mapping).Evolves S := by
  refine (Evolves.require _ _).bind fun _ => evolves_self.bind fun g => ?_
  exact (Evolves.orRefuse _ _).bind fun _ => (Evolves.check _).bind fun _ => .pure _

theorem evolves_bindWindow (index binding : UInt32) (kind : ResourceKind) (slot : Binding) :
    (bindWindow index binding kind slot).Evolves S := by
  refine (evolves_resolve _).bind fun a => (Evolves.require _ _).bind fun _ => ?_
  refine evolves_self.bind fun g => (Evolves.require _ _).bind fun _ => ?_
  exact (Evolves.check _).bind fun _ => .pure _

theorem evolves_resolveAttachment (extent : Option (UInt32 × UInt32)) (a : Attachment) :
    (Recording.resolveAttachment extent a).Evolves S := by
  refine (evolves_imageTarget _).bind fun target => (Evolves.require _ _).bind fun _ => ?_
  exact (Evolves.orRefuse _ _).bind fun _ => .pure _

theorem evolves_addAttachment (c : Recording.Attachments) (a : Attachment) :
    (c.add a).Evolves S :=
  (evolves_resolveAttachment _ _).bind fun _ => .pure _

end

/-! ## Cached objects -/

theorem evolves_getOrInsert {κ α σ : Type} [DecidableEq κ] {R : σ → σ → Prop} [Evolution R]
    {create : Action σ α} (h : create.Evolves R) (c : ObjectCache κ α) (key : κ) :
    (c.getOrInsert key create).Evolves R := by
  unfold ObjectCache.getOrInsert
  split
  · exact .pure _
  · exact h.bind fun _ => .pure _

theorem poolOf_push (g : Gpu) (slots : SetLayout) (native : NativeLayout) :
    poolOf { g with layouts := g.layouts.push slots { native } } = g.poolOf := by
  funext layout
  simp only [poolOf, ObjectCache.get?_push]
  split
  · -- An unknown layout counts as having the pool that a new one starts with.
    rename_i new
    have unknown : g.layouts.get? layout = none := by
      rw [ObjectCache.get?, new, ObjectCache.size, List.getElem?_eq_none (Nat.le_refl _)]
    rw [unknown]
    rfl
  · rfl

/-- A relation to which it is all one which buffer is the placeholder. -/
theorem evolves_placeholderFor {S : Live Gpu → Live Gpu → Prop} [Evolution S]
    (made : ∀ (s : Live Gpu) (size : Nat),
      S s { s with platform :=
        (s.platform.makeBuffer s.device.connection .placeholder size).2 })
    (placed : ∀ (s : Live Gpu) (b : Buffer), S s { s with device.placeholder := b })
    (minSize : Nat) : (placeholderFor minSize).Evolves S := by
  refine (Evolves.check _).bind fun aligned => Evolves.get.bind fun s => .ite ?_ ?_
  · refine .bind (fun s => ?_) fun buffer => ?_
    · rw [wp_attempt, Platform.wp_createBuffer]
      exact ⟨fun _ => made s _, fun _ => Evolution.refl s⟩
    refine (Live.evolves_update fun s => placed s buffer).bind fun _ => ?_
    exact evolves_self.bind fun _ => .pure _
  · exact evolves_self.bind fun _ => .pure _

/-- A relation to which it is all one what becomes of cached objects. -/
theorem Frame.ofHeld {S : Live Gpu → Live Gpu → Prop} [Evolution S]
    (keeps : ∀ {s : Live Gpu} {g : Gpu}, s.device.Keeps g →
      g.placeholder = s.device.placeholder → S s { s with device := g })
    (makes : ∀ {s : Live Gpu} {p : Platform}, s.platform.Makes p → S s { s with platform := p })
    (placed : ∀ minSize, (Gpu.placeholderFor minSize).Evolves S) : Frame S where
  rests h := keeps h.toKeeps h.placeholder
  makes := makes
  placeholderFor := placed
  setLayout slots := by
    -- A layout that is made changes the pools as a whole, so the step is not framed part by part.
    intro s
    simp only [Gpu.setLayout, ObjectCache.getOrInsert, wp_bind, Live.wp_self]
    cases s.device.layouts.lookup slots with
    | some handle => exact Evolution.refl s
    | none =>
      simp only [request, wp_bind, Live.wp_self, Live.wp_request, wp_pure, Live.wp_update]
      have made : s.platform.Makes (s.platform.createSetLayout s.device.connection slots).2 :=
        .told (List.prefix_refl _) (Nat.le_succ _) rfl rfl rfl
      have kept (native : NativeLayout) : s.device.Keeps
          { s.device with layouts := s.device.layouts.push slots { native } } :=
        ⟨rfl, rfl, rfl, by rw [custody, poolOf_push]; rfl, rfl, rfl, UInt32.le_refl _⟩
      exact Evolution.trans (makes made) (keeps (s := ⟨_, s.device⟩) (kept _) rfl)
  renderPass desc := by
    refine evolves_self.bind fun g => ?_
    refine (evolves_getOrInsert (.checked _) _ _).bind fun found => ?_
    refine .bind (Live.evolves_update fun _ => keeps ?_ rfl) fun _ => .pure _
    exact ⟨rfl, rfl, rfl, rfl, rfl, rfl, UInt32.le_refl _⟩
  framebuffer desc := by
    refine (evolves_renderPassInfo _).bind fun pass => (Evolves.require _ _).bind fun _ => ?_
    refine evolves_self.bind fun g => ?_
    refine (evolves_getOrInsert ?_ _ _).bind fun found =>
      .bind (Live.evolves_update fun _ => keeps ?_ rfl) fun _ => .pure _
    · exact (Evolves.forM fun (a : Allocation) => (evolves_image a.id).discard).bind fun _ =>
        .pure _
    · exact ⟨rfl, rfl, rfl, rfl, rfl, rfl, UInt32.le_refl _⟩

/-- A relation to which it is all one what becomes of cached objects and of the placeholder. -/
theorem Frame.of {S : Live Gpu → Live Gpu → Prop} [Growing S]
    (keeps : ∀ {s : Live Gpu} {g : Gpu}, s.device.Keeps g → S s { s with device := g }) :
    Frame S :=
  .ofHeld (fun h _ => keeps h) (fun h => Growing.grows h.toGrows)
    (evolves_placeholderFor
      (fun _ _ => Growing.grows (Platform.makes_makeBuffer _ _ _ _).toGrows)
      fun _ _ => keeps ⟨rfl, rfl, rfl, rfl, rfl, rfl, UInt32.le_refl _⟩)

/-- What a relation allows, a weaker one does as well. -/
theorem Frame.mono {S S' : Live Gpu → Live Gpu → Prop} [Evolution S'] (frame : Frame S)
    (weaker : ∀ s t, S s t → S' s t) : Frame S' where
  rests h := weaker _ _ (frame.rests h)
  makes h := weaker _ _ (frame.makes h)
  placeholderFor minSize := (frame.placeholderFor minSize).mono weaker
  setLayout slots := (frame.setLayout slots).mono weaker
  renderPass desc := (frame.renderPass desc).mono weaker
  framebuffer desc := (frame.framebuffer desc).mono weaker

instance : Growing (Quiet R) where
  grows h := ⟨rfl, rfl, Platform.Timing.idle h.submissions h.finished⟩

instance : ImageFrame (Quiet R) where
  toFrame := .of fun h => ⟨h.connection, h.custody, Evolution.refl _⟩
  images _ := ⟨rfl, rfl, Evolution.refl _⟩

instance : MemoryFrame (Quiet Platform.Advances) where
  buffers _ := ⟨rfl, rfl, Evolution.refl _⟩
  works h := ⟨rfl, rfl, h.toAdvances⟩

section

variable {S : Live Gpu → Live Gpu → Prop} [Basis S]

theorem framed_update {f : Gpu → Gpu} (h : ∀ g : Gpu, g.Rests (f g)) :
    (Live.update f).Evolves S :=
  Live.evolves_update fun s => Basis.rests (h s.device)

theorem framed_liveRequest {α : Type} {f : Platform → α × Platform}
    (h : ∀ p : Platform, p.Makes (f p).2) : (Live.request f : Action (Live Gpu) α).Evolves S :=
  Live.evolves_request fun s => Basis.makes (h s.platform)

theorem framed_request {α : Type} {f : Connection → Platform → α × Platform}
    (h : ∀ c (p : Platform), p.Makes (f c p).2) : (request f).Evolves S :=
  evolves_self.bind fun g => framed_liveRequest (h g.connection)

theorem framed_attempt {α : Type} {f : Connection → Action Platform α}
    (h : ∀ c, (f c).Evolves Platform.Makes) : (attempt f).Evolves S :=
  evolves_self.bind fun g => Live.evolves_onPlatform (h g.connection) fun _ _ => Basis.makes

theorem framed_record {e : Event} (queues : e.queues = false) (other : e.renderPipeline? = none) :
    (Live.record e : Action (Live Gpu) Unit).Evolves S :=
  Live.evolves_record fun _ =>
    Basis.makes (.told (List.prefix_refl _) (Nat.le_refl _) rfl queues other)

theorem framed_takeAllocId : takeAllocId.Evolves S := by
  intro s
  simp only [takeAllocId, wp_bind, Live.wp_self, wp_check]
  refine ⟨?_, fun e _ => Evolution.refl s⟩
  rintro ⟨id, next⟩ taken
  have later := UInt32.le_of_lt (takeNumber_eq_ok taken).2
  exact Basis.rests ⟨⟨rfl, rfl, rfl, rfl, rfl, rfl, later⟩, rfl, rfl, rfl, rfl⟩

end

/-! ## Pipelines and kernels -/

section

variable {S : Live Gpu → Live Gpu → Prop} [Frame S]

theorem framed_pipelineLayout (binder : Binder) (name : String) :
    (pipelineLayout binder name).Evolves S := by
  refine (Evolves.check _).bind fun count => ?_
  refine (Evolves.mapM fun index => ?_).bind fun sets => ?_
  · exact (Frame.setLayout _).bind fun _ => (evolves_layoutEntry _).bind fun _ => .pure _
  · exact (framed_record rfl rfl).bind fun _ => .pure _

theorem framed_registerPipeline :
    (Live.request Platform.registerPipeline : Action (Live Gpu) Nat).Evolves S :=
  framed_liveRequest fun p => ⟨⟨⟨rfl, rfl⟩, List.prefix_refl _, rfl, Nat.le_refl _, rfl⟩,
    p.keepsVariants_registerPipeline⟩

theorem framed_shaderModule (source : ShaderSource) (name : String) :
    (shaderModule source name).Evolves S := (framed_record rfl rfl).bind fun _ => .pure _

theorem framed_createComputePipeline (source : ShaderSource) (name : String) :
    (createComputePipeline source name).Evolves S := by
  refine (Evolves.require _ _).bind fun _ => (Evolves.check _).bind fun reflection => ?_
  refine (framed_pipelineLayout _ _).bind fun (sets, layout) => ?_
  refine (framed_shaderModule _ _).bind fun module => ?_
  refine .bind (framed_request fun _ _ => ?_) fun native => ?_
  · exact .told (List.prefix_refl _) (Nat.le_refl _) rfl rfl rfl
  exact framed_registerPipeline.bind fun _ => .pure _

theorem framed_addStage (name : String) (stages : RasterStages) (source : ShaderSource) :
    (stages.add name source).Evolves S := by
  unfold RasterStages.add
  cases source.stage with
  | compute => exact .refuse_bind _ _
  | vertex | fragment =>
    refine (Evolves.pure _).bind fun taken => (Evolves.require _ _).bind fun _ => ?_
    exact (Evolves.check _).bind fun _ => (framed_shaderModule _ _).bind fun _ => .pure _

theorem framed_createRasterPipeline (request : RasterRequest) (name : String) :
    (createRasterPipeline request name).Evolves S := by
  unfold createRasterPipeline
  split
  · exact .refuse_bind _ _
  · refine (Evolves.foldlM (framed_addStage name) _).bind fun stages => ?_
    refine (Evolves.orRefuse _ _).bind fun entry => (framed_pipelineLayout _ _).bind fun sets => ?_
    exact (Evolves.checked _).bind fun _ => framed_registerPipeline.bind fun _ => .pure _

theorem framed_registerKernel (number : UInt32) (kernel : Kernel) :
    (registerKernel number kernel).Evolves S := by
  refine (Evolves.require _ _).bind fun _ => framed_update fun _ => ?_
  exact ⟨⟨rfl, rfl, rfl, rfl, rfl, rfl, UInt32.le_refl _⟩, rfl, rfl, rfl, rfl⟩

/-! ## What recording asks of the device -/

theorem framed_bindSlot (binder : Binder) (index binding : UInt32) (kind : ResourceKind) :
    (bindSlot binder index binding kind).Evolves S := by
  unfold bindSlot
  dsimp only
  split
  · exact evolves_bindWindow _ _ _ _
  · exact (Frame.placeholderFor _).bind fun _ => .pure _

theorem framed_writeSet (set : SetHandle) (layout : SetLayout) (binder : Binder)
    (index : UInt32) : (writeSet set layout binder index).Evolves S := by
  refine (Evolves.mapM fun _ => framed_bindSlot _ _ _ _).bind fun entries => ?_
  refine (evolves_layoutEntry _).bind fun entry => ?_
  exact framed_attempt fun c => Platform.makes_createBindGroup c _

end

/-- What is built for a pipeline is kept with it. -/
theorem framed_variant {S : Live Gpu → Live Gpu → Prop} [Growing S] (pipeline : Pipeline)
    (t : RasterTemplate) (pass : CacheHandle) (info : RenderPassInfo) :
    (Recording.variant pipeline t pass info).Evolves S := by
  refine Evolves.get.bind fun s => ?_
  split
  · exact .pure _
  · refine (Evolves.require _ _).bind fun _ => .bind ?_ fun built => .bind ?_ fun _ => .pure _
    · exact evolves_self.bind fun g => Live.evolves_request fun _ =>
        Growing.grows (Platform.grows_createRenderPipeline _ _ _)
    · refine Live.evolves_onPlatform (S := Platform.Grows) ?_ fun _ _ => Growing.grows
      exact fun _ => ⟨⟨rfl, rfl⟩, List.prefix_refl _, rfl, Nat.le_refl _, rfl⟩

/-! ## Images -/

section

variable {S : Live Gpu → Live Gpu → Prop} [ImageBasis S]

theorem framed_putImage (id : UInt32) (i : Image) : (putImage id i).Evolves S :=
  Live.evolves_update fun _ => ImageBasis.images _

theorem framed_createImage (format : BufferFormat) (width height : UInt32) :
    (createImage format width height).Evolves S := by
  refine evolves_registeredId.bind fun device => (Evolves.orRefuse _ _).bind fun native => ?_
  refine evolves_self.bind fun g => .stopIf (.throw _) fun _ => ?_
  refine .bind (framed_request fun _ _ => ?_) fun texture => ?_
  · exact .told (List.prefix_refl _) (Nat.le_refl _) rfl rfl rfl
  exact framed_takeAllocId.bind fun _ => (framed_putImage _ _).bind fun _ => .pure _

theorem framed_importImage (format : TextureFormat) (width height : UInt32) :
    (importImage format width height).Evolves S :=
  evolves_registeredId.bind fun _ => framed_takeAllocId.bind fun _ =>
    (framed_putImage _ _).bind fun _ => .pure _

theorem framed_destroyImage (alloc : Allocation) : (destroyImage alloc).Evolves S := by
  refine (evolves_checkLocal _).bind fun _ => (evolves_image _).discard.bind fun _ => ?_
  exact Live.evolves_update fun _ => ImageBasis.images _

theorem framed_bindView (alloc : Allocation) (view : Option Texture) (width height : UInt32) :
    (bindView alloc view width height).Evolves S :=
  (evolves_image _).bind fun _ => framed_putImage _ _

end

/-! ## Memory -/

section

variable {S : Live Gpu → Live Gpu → Prop} [MemoryFrame S]

theorem framed_onPlatform {α : Type} {a : Action Platform α} (h : a.Evolves Platform.Works) :
    (Live.onPlatform a : Action (Live Gpu) α).Evolves S :=
  Live.evolves_onPlatform h fun _ _ => MemoryFrame.works

theorem framed_submit (label : EncoderLabel) (commands : List Command) :
    (Live.request (Platform.submit label commands) : Action (Live Gpu) Platform.Fence).Evolves S :=
  Live.evolves_request fun _ => MemoryFrame.works (Platform.works_submit label commands _)

theorem framed_putBuffer (id : UInt32) (a : BufferAllocation) : (putBuffer id a).Evolves S :=
  Live.evolves_update fun _ => MemoryFrame.buffers _

theorem framed_allocate (params : AllocParams) : (allocate params).Evolves S := by
  refine evolves_registeredId.bind fun device => evolves_self.bind fun g => ?_
  refine .stopIf (.throw _) fun _ => (Evolves.check _).bind fun size => ?_
  refine .bind (framed_attempt fun c => Platform.makes_createBuffer c _ _) fun buffer => ?_
  exact framed_takeAllocId.bind fun _ => (framed_putBuffer _ _).bind fun _ => .pure _

theorem framed_deallocate (alloc : Allocation) : (deallocate alloc).Evolves S := by
  refine (evolves_checkLocal _).bind fun _ => (evolves_allocation _).discard.bind fun _ => ?_
  exact Live.evolves_update fun _ => MemoryFrame.buffers _

theorem framed_mapRange (pointer : Pointer) (size : UInt64) :
    (mapRange pointer size).Evolves S := by
  refine (evolves_checkedRange _ _).bind fun _ => (evolves_allocation _).bind fun a => ?_
  refine (Evolves.require _ _).bind fun _ => (Evolves.require _ _).bind fun _ => ?_
  refine (framed_onPlatform (Platform.works_readBuffer _ _ _)).bind fun shadow => ?_
  exact (framed_putBuffer _ _).bind fun _ => .pure _

theorem framed_unmap (alloc : Allocation) : (unmap alloc).Evolves S := by
  refine (evolves_resolve _).bind fun a => (Evolves.orRefuse _ _).bind fun mapping => ?_
  refine (framed_putBuffer _ _).bind fun _ => ?_
  exact .ite (framed_onPlatform (Platform.works_writeBuffer _ _ _)) (.pure _)

theorem framed_readRange (range : Range) : (readRange range).Evolves S :=
  (evolves_checkedRange _ _).bind fun _ => framed_onPlatform (Platform.works_readBuffer _ _ _)

theorem framed_writeRange (dst : Pointer) (data : Storage) : (writeRange dst data).Evolves S :=
  (evolves_checkedRange _ _).bind fun _ => framed_onPlatform (Platform.works_writeBuffer _ _ _)

theorem writeRegion_eq (g : Gpu) (region : MappedRegion) (offset : Nat) (data : Storage) :
    ∃ buffers, g.writeRegion region offset data = { g with buffers } := by
  unfold writeRegion
  split <;> exact ⟨_, rfl⟩

theorem framed_writeRegion (region : MappedRegion) (offset : Nat) (data : Storage) :
    (Live.update fun g => g.writeRegion region offset data).Evolves S := by
  refine Live.evolves_update fun s => ?_
  obtain ⟨buffers, written⟩ := s.device.writeRegion_eq region offset data
  rw [written]
  exact MemoryFrame.buffers buffers

theorem framed_copyWithin (dst : Pointer) (src : Range) : (copyWithin dst src).Evolves S := by
  refine (evolves_checkLocal _).bind fun _ => evolves_self.bind fun g => ?_
  refine .ite (.pure _) ?_
  refine (evolves_checkedRange _ _).bind fun _ => (evolves_checkedRange _ _).bind fun _ => ?_
  exact .ite ((framed_submit _ _).discard.bind fun _ => .pure _) (.pure _)

theorem framed_waitIdle : waitIdle.Evolves S := by
  refine evolves_self.bind fun g => framed_onPlatform fun p => ?_
  have waited := Platform.works_polled (p := p) g.connection none nofun
  exact (Platform.wp_poll _ _).2 ⟨fun _ => waited, fun _ => waited⟩

end

end Gpu

theorem MemoryCall.framed {S : Live Gpu → Live Gpu → Prop} [Gpu.MemoryFrame S]
    (call : MemoryCall) : call.run.Evolves S := by
  open Gpu in
  cases call with
  | allocate params => exact (framed_allocate params).map _
  | deallocate alloc => exact (framed_deallocate alloc).bind fun _ => .pure _
  | map alloc => exact (framed_mapRange _ _).map _
  | mapRange start size => exact (framed_mapRange start size).map _
  | unmap alloc => exact (framed_unmap alloc).bind fun _ => .pure _
  | read range => exact (framed_readRange range).map _
  | write dst data => exact (framed_writeRange dst data).bind fun _ => .pure _
  | readRegion region => exact evolves_self.bind fun _ => .pure _
  | writeRegion region offset data =>
    exact evolves_self.bind fun g =>
      .ite ((framed_writeRegion region offset data).bind fun _ => .pure _) (.pure _)

/-- The calls that make native objects other than buffers and images. -/
def DeviceCall.ofObjects : DeviceCall → Bool
  | .setLayout _ | .renderPass _ | .framebuffer _ | .computePipeline .. | .rasterPipeline ..
  | .registerKernel .. => true
  | _ => false

def DeviceCall.ofImages : DeviceCall → Bool
  | .createImage .. | .importImage .. | .bindView .. | .destroyImage _ => true
  | _ => false

theorem DeviceCall.framed {S : Live Gpu → Live Gpu → Prop} [Gpu.Frame S] (call : DeviceCall)
    (ofObjects : call.ofObjects = true) : call.run.Evolves S := by
  open Gpu in
  cases call with
  | setLayout slots => exact (Frame.setLayout slots).discard
  | renderPass desc => exact (Frame.renderPass desc).discard
  | framebuffer desc => exact (Frame.framebuffer desc).discard
  | computePipeline source name => exact (framed_createComputePipeline source name).discard
  | rasterPipeline request name => exact (framed_createRasterPipeline request name).discard
  | registerKernel number kernel => exact framed_registerKernel number kernel
  | _ => cases ofObjects

theorem DeviceCall.framedImage {S : Live Gpu → Live Gpu → Prop} [Gpu.ImageBasis S]
    (call : DeviceCall) (ofImages : call.ofImages = true) : call.run.Evolves S := by
  open Gpu in
  cases call with
  | createImage format width height => exact (framed_createImage format width height).discard
  | importImage format width height => exact (framed_importImage format width height).discard
  | bindView image view width height => exact framed_bindView image view width height
  | destroyImage image => exact framed_destroyImage image
  | _ => cases ofImages

theorem DeviceCall.framedMemory {S : Live Gpu → Live Gpu → Prop} [Gpu.MemoryFrame S]
    (call : DeviceCall) (other : call.ofImages = false) : call.run.Evolves S := by
  open Gpu in
  cases call with
  | memory call => exact call.framed.discard
  | copyWithin dst src => exact (framed_copyWithin dst src).discard
  | waitIdle => exact framed_waitIdle
  | queueNative commands => exact (framed_submit _ _).discard
  | createImage | importImage | bindView | destroyImage => cases other
  | _ => exact DeviceCall.framed _ rfl

/-- No call to the device itself touches what it keeps about its command lists. -/
theorem DeviceCall.quiet (call : DeviceCall) : call.run.Evolves (Gpu.Quiet Platform.Advances) := by
  cases ofImages : call.ofImages with
  | true => exact call.framedImage ofImages
  | false => exact call.framedMemory ofImages

end DeviceLayer
