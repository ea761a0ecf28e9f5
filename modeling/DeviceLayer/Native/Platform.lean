import DeviceLayer.Capability
import DeviceLayer.Native.Event

/-!
# The platform

The state of the world outside the device layer: the contents of native buffers, the names given
so far, what the outside world will answer next, and the trace of what was asked of it. Queued
work runs at once and in order.

* `Platform.createBuffer`, … — make native objects. The library makes no buffer past the limit of
  the connection and no bind group that it finds unfit.
* `Platform.queueWrite`, `submit` — move bytes.
* `Platform.poll` — waits, and succeeds or fails as it was told to.
* `Platform.acquireFrame` — the next frame of a surface.
-/

namespace DeviceLayer

/-- The kind of adapter the next device of the graphics library sits on. -/
inductive AdapterType where
  | other
  | integrated
  | discrete
  | virtual
  | cpu
  deriving DecidableEq

instance : Named AdapterType where
  all := [.other, .integrated, .discrete, .virtual, .cpu]
  name
    | .other => "Other"
    | .integrated => "IntegratedGpu"
    | .discrete => "DiscreteGpu"
    | .virtual => "VirtualGpu"
    | .cpu => "Cpu"

/-- What kind of device an adapter makes. -/
def AdapterType.deviceType : AdapterType → DeviceType
  | .integrated => .gpuShared
  | .cpu => .host
  | .discrete | .virtual | .other => .gpu

/-- What a surface gives when asked for a frame. -/
inductive FrameOutcome where
  | frame (width height : UInt32)
  | failure (error : SurfaceError)

/-- How many objects of each class have been named. -/
structure NameCounts where
  placeholders : Nat := 0
  staging : Nat := 0
  memory : Nat := 0
  patterns : Nat := 0
  images : Nat := 0
  frames : Nat := 0
  layouts : Nat := 0
  computePipelines : Nat := 0
  renderPipelines : Nat := 0

/-- The next name of a class, and the counts after it is taken. -/
def NameCounts.take (c : NameCounts) (kind : ObjectClass) : ObjectName × NameCounts :=
  match kind with
  | .placeholder => (⟨kind, c.placeholders⟩, { c with placeholders := c.placeholders + 1 })
  | .staging => (⟨kind, c.staging⟩, { c with staging := c.staging + 1 })
  | .memory => (⟨kind, c.memory⟩, { c with memory := c.memory + 1 })
  | .pattern => (⟨kind, c.patterns⟩, { c with patterns := c.patterns + 1 })
  | .image => (⟨kind, c.images⟩, { c with images := c.images + 1 })
  | .frame => (⟨kind, c.frames⟩, { c with frames := c.frames + 1 })
  | .layout => (⟨kind, c.layouts⟩, { c with layouts := c.layouts + 1 })
  | .computePipeline =>
    (⟨kind, c.computePipelines⟩, { c with computePipelines := c.computePipelines + 1 })
  | .renderPipeline =>
    (⟨kind, c.renderPipelines⟩, { c with renderPipelines := c.renderPipelines + 1 })

/-- The rolls of all kinds of objects. -/
structure Rolls where
  buffers : Roll ObjectName := {}
  textures : Roll ObjectName := {}
  layouts : Roll ObjectName := {}
  groups : Roll BindWindows := {}
  computePipelines : Roll ObjectName := {}
  renderPipelines : Roll ObjectName := {}

/-- What the outside world answers from now on. -/
structure Script where
  adapterType : AdapterType := .cpu
  adapter : Adapter := .noop
  /-- What the graphics library has against a bind group, in its own words. -/
  groupDefect : BindWindows → Option String := fun _ => none
  /-- Whether each of the next polls succeeds; all later ones do. -/
  polls : List Bool := []
  surfaceFormats : List TextureFormat := []
  alphaModes : List AlphaMode := []
  /-- The frames surfaces give, before they give frames of their own size. -/
  frames : List FrameOutcome := []
  surfaceSupported : Bool := true
  surfaceCreationFails : Bool := false

/-- What the next poll answers. -/
def Script.nextPoll (s : Script) : Bool := s.polls.headD true

/-- The world outside the device layer. -/
structure Platform where
  contents : Contents := []
  names : NameCounts := {}
  rolls : Rolls := {}
  /-- Connections opened so far. -/
  connections : Nat := 0
  /-- Submissions queued so far. -/
  submissions : Nat := 0
  /-- Of each connection, by its index, the submissions that are known to have run: all with a
  smaller number. -/
  finished : SortedMap Nat Nat := ∅
  /-- The native pipelines built for each pipeline of the device layer, by render pass. -/
  variants : List (SortedMap CacheHandle NativePipeline) := []
  script : Script := {}
  log : List Event := []

namespace Platform

/-- A number that stands for a submission. -/
abbrev Fence := Nat

def record (p : Platform) (e : Event) : Platform := { p with log := p.log ++ [e] }

/-- Opens a connection that promises the limits. -/
def connect (limits : Limits) (p : Platform) : Connection × Platform :=
  (⟨p.connections, limits⟩, { p with connections := p.connections + 1 })

/-- Makes a buffer with the given contents, without an event of its own. -/
def newBuffer (c : Connection) (purpose : BufferPurpose) (bytes : Storage) (p : Platform) :
    Buffer × Platform :=
  let (name, names) := p.names.take purpose.kind
  let (shown, roll) := p.rolls.buffers.enter c name
  (⟨p.contents.length, c, purpose, name, shown⟩,
    { p with contents := p.contents ++ [bytes], names, rolls := { p.rolls with buffers := roll } })

/-- Goes on only if the library makes a buffer of that size. -/
def checkSize (c : Connection) (purpose : BufferPurpose) (size : Nat) : Action Platform Unit :=
  if size ≤ c.limits.maxBufferSize.toNat then pure ()
  else throw (.native (.buffer purpose.label size c.limits.maxBufferSize))

/-- Makes a buffer of zero bytes. -/
def makeBuffer (c : Connection) (purpose : BufferPurpose) (size : Nat) (p : Platform) :
    Buffer × Platform :=
  let (buffer, p) := p.newBuffer c purpose (.zeros size)
  (buffer, p.record (.createBuffer buffer size))

def createBuffer (c : Connection) (purpose : BufferPurpose) (size : Nat) :
    Action Platform Buffer := do
  checkSize c purpose size
  modifyGet (makeBuffer c purpose size)

/-- Makes a buffer that holds `n` copies of a word. -/
def makePattern (c : Connection) (n : Nat) (word : UInt32) (p : Platform) :
    Buffer × Platform :=
  let contents := Storage.ofWords n fun _ => word
  let (buffer, p) := p.newBuffer c .pattern contents
  (buffer, p.record (.createPattern buffer contents))

def createPattern (c : Connection) (n : Nat) (word : UInt32) : Action Platform Buffer := do
  checkSize c .pattern (4 * n)
  modifyGet (makePattern c n word)

/-- Makes a texture, without an event of its own. -/
def newTexture (c : Connection) (kind : ObjectClass) (p : Platform) : Texture × Platform :=
  let (name, names) := p.names.take kind
  let (shown, roll) := p.rolls.textures.enter c name
  (⟨name, shown⟩, { p with names, rolls := { p.rolls with textures := roll } })

def createTexture (c : Connection) (format : TextureFormat) (width height : UInt32)
    (p : Platform) : Texture × Platform :=
  let (texture, p) := p.newTexture c .image
  (texture, p.record (.createTexture texture format width height))

def createSetLayout (c : Connection) (slots : SetLayout) (p : Platform) :
    NativeLayout × Platform :=
  let (name, names) := p.names.take .layout
  let (shown, roll) := p.rolls.layouts.enter c name
  let layout : NativeLayout := ⟨name, shown⟩
  let p := { p with names, rolls := { p.rolls with layouts := roll } }
  (layout, p.record (.createSetLayout layout slots))

def makeBindGroup (c : Connection) (windows : BindWindows) (p : Platform) :
    BindGroup × Platform :=
  let (shown, roll) := p.rolls.groups.enter c windows
  (⟨windows, shown⟩,
    { p with rolls := { p.rolls with groups := roll } }.record (.createBindGroup windows))

def createBindGroup (c : Connection) (windows : BindWindows) : Action Platform BindGroup := do
  if let some words := (← get).script.groupDefect windows then
    throw (.native (.bindGroup words))
  modifyGet (makeBindGroup c windows)

def createComputePipeline (c : Connection) (desc : ComputePipelineDesc) (p : Platform) :
    NativePipeline × Platform :=
  let (name, names) := p.names.take .computePipeline
  let (shown, roll) := p.rolls.computePipelines.enter c name
  let pipeline : NativePipeline := ⟨name, shown⟩
  let p := { p with names, rolls := { p.rolls with computePipelines := roll } }
  (pipeline, p.record (.createComputePipeline pipeline desc))

def createRenderPipeline (c : Connection) (desc : RenderPipelineDesc) (p : Platform) :
    NativePipeline × Platform :=
  let (name, names) := p.names.take .renderPipeline
  let (shown, roll) := p.rolls.renderPipelines.enter c name
  let pipeline : NativePipeline := ⟨name, shown⟩
  let p := { p with names, rolls := { p.rolls with renderPipelines := roll } }
  (pipeline, p.record (.createRenderPipeline pipeline desc))

/-- Numbers a new pipeline, for which nothing is built yet. -/
def registerPipeline (p : Platform) : Nat × Platform :=
  (p.variants.length, { p with variants := p.variants ++ [∅] })

/-- The native pipelines built for a pipeline, by render pass. -/
def variantsOf (p : Platform) (pipeline : Nat) : SortedMap CacheHandle NativePipeline :=
  p.variants.getD pipeline ∅

/-- Keeps the native pipeline built for a pipeline under a render pass. -/
def keepVariant (pipeline : Nat) (pass : CacheHandle) (built : NativePipeline) (p : Platform) :
    Platform :=
  { p with variants := p.variants.modify pipeline (·.insert pass built) }

/-- The number of bytes of a buffer. -/
def bufferSize (p : Platform) (b : Buffer) : Nat := (p.contents.of b).size

/-- Writes host bytes into a buffer through the queue. -/
def queueWrite (b : Buffer) (offset : Nat) (data : Storage) (p : Platform) : Platform :=
  { p with contents := p.contents.write b offset data }.record (.writeBuffer b offset data)

/-- Queues commands, which run at once; the fence stands for this submission. -/
def submit (label : EncoderLabel) (commands : List Command) (p : Platform) : Fence × Platform :=
  (p.submissions,
    { p with contents := runCommands p.contents commands, submissions := p.submissions + 1 }.record
      (.submit label commands))

/-- The submissions of a connection with a smaller number are known to have run. -/
def finishedOn (p : Platform) (c : Connection) : Fence := (p.finished.get? c.index).getD 0

/-- The platform after a poll of a connection. The queue is in order, so a wait that succeeds
shows that all work up to the fence has run. -/
def polled (c : Connection) (fence : Option Fence) (p : Platform) : Platform :=
  let past := (fence.map (· + 1)).getD p.submissions
  let finished :=
    if p.script.nextPoll then p.finished.insert c.index (max (p.finishedOn c) past) else p.finished
  { p with finished, script := { p.script with polls := p.script.polls.tail } }.record
    (.poll fence.isSome p.script.nextPoll)

/-- Waits for one submission of a connection or, without a fence, for all. -/
def poll (c : Connection) (fence : Option Fence) : Action Platform Unit := fun p =>
  if p.script.nextPoll then .ok () (p.polled c fence)
  else .error (.device (.backend .pollTimeout)) (p.polled c fence)

/-- The next frame of a surface: what the script says, or a frame of the configured size. -/
def acquireFrame (c : Connection) (config : SurfaceConfig) (p : Platform) :
    Except SurfaceError (Texture × UInt32 × UInt32) × Platform :=
  let (outcome, rest) := match p.script.frames with
    | outcome :: rest => (outcome, rest)
    | [] => (.frame config.width config.height, [])
  let p := { p with script := { p.script with frames := rest } }
  match outcome with
  | .frame width height =>
    let (frame, p) := p.newTexture c .frame
    (.ok (frame, width, height), p.record (.acquire frame width height))
  | .failure error => (.error error, p.record (.acquireFailed error))

end Platform

end DeviceLayer
