import DeviceLayer.Cache
import DeviceLayer.DescriptorPool
import DeviceLayer.Host
import DeviceLayer.Live
import DeviceLayer.RenderPass
import DeviceLayer.Submission

/-!
# State of a graphics processor

Everything a graphics processor keeps between calls: its allocations, the caches of its native
objects, the pools of its descriptor sets, the submissions that are in flight and its kernels.

A host mapping of such a device is a shadow: bytes copied out when the mapping begins and copied
back when it ends.
-/

namespace DeviceLayer

/-- The window of an allocation that the host has mapped, and its copy of the bytes. -/
structure HostMapping where
  offset : Nat
  shadow : Storage

/-- Memory on the device. The native buffer may be longer than what was asked for. -/
structure BufferAllocation where
  buffer : Buffer
  params : AllocParams
  mapping : Option HostMapping := none

/-- The number of bytes that was asked for. -/
def BufferAllocation.size (a : BufferAllocation) : Nat := a.params.size.toNat

/-- An image; the view of one that stands for surface frames comes and goes. -/
structure Image where
  view : Option Texture
  format : TextureFormat
  width : UInt32
  height : UInt32

/-- The view and extent of an image that can be drawn to. -/
structure ImageTarget where
  view : Texture
  format : TextureFormat
  width : UInt32
  height : UInt32

/-- A slot of a layout's descriptor pool. -/
structure SetHandle where
  layout : CacheHandle
  set : UInt32
  deriving DecidableEq

/-- A set layout with the pool of its sets. -/
structure LayoutEntry where
  native : NativeLayout
  pool : DescriptorPool UInt32 := {}

/-- The number of a command buffer. -/
structure CommandBufferId where
  index : UInt32
  deriving DecidableEq

def CommandBufferId.text (b : CommandBufferId) : String := s!"CommandBufferId({b.index})"

/-- The fixed part of a raster pipeline, from which one is built for each render pass. -/
structure RasterTemplate where
  vertex : NativeStage
  fragment : Option NativeStage
  buffers : List VertexBufferLayout
  raster : RasterParams
  /-- Color targets that the pipeline was declared with. -/
  targets : Nat

inductive PipelineKind where
  | compute (native : NativePipeline)
  | raster (template : RasterTemplate)

/-- A compiled pipeline with the binder its shaders reflect. -/
structure Pipeline where
  /-- Finds the native pipelines built for it. -/
  id : Nat
  name : String
  binder : Binder
  /-- The layout of each bind group index, an empty one where no shader binds anything. -/
  sets : List (CacheHandle × SetLayout)
  layout : PipelineLayout
  kind : PipelineKind

def Pipeline.isGraphics (p : Pipeline) : Bool :=
  match p.kind with
  | .compute _ => false
  | .raster _ => true

/-- One argument of a kernel: the range mapped to a node is bound at a set and binding number. -/
structure KernelArgument where
  node : Int
  set : UInt32
  binding : UInt32

/-- A compute pipeline and how a launch feeds it. -/
structure Kernel where
  pipeline : Pipeline
  arguments : List KernelArgument := []
  groups : UInt32 × UInt32 × UInt32

/-- A graphics processor. -/
structure Gpu where
  assigned : Option DeviceId := none
  connection : Connection
  adapter : AdapterType
  /-- Bound in place of slots that hold nothing; shared by all sets. -/
  placeholder : Buffer
  /-- The next id of a buffer or image; both draw from one counter. -/
  nextAlloc : UInt32 := 0
  buffers : SortedMap UInt32 BufferAllocation := ∅
  images : SortedMap UInt32 Image := ∅
  layouts : ObjectCache SetLayout LayoutEntry := {}
  passes : ObjectCache RenderPassDesc RenderPassInfo := {}
  framebuffers : ObjectCache FramebufferDesc FramebufferInfo := {}
  tracker : SubmissionTracker CommandBufferId SetHandle Platform.Fence := {}
  nextCommandBuffer : UInt32 := 0
  kernels : SortedMap UInt32 Kernel := ∅

namespace Gpu

def id (g : Gpu) : DeviceId := g.assigned.getD .unassigned

def limits (g : Gpu) : Limits := g.connection.limits

def deviceType (g : Gpu) : DeviceType := g.adapter.deviceType

def capabilities : Capabilities := .ofList [.compute, .graphics, .display]

/-- Streams that kernels run in. -/
def streams : UInt32 := 1

/-- The smallest placeholder. -/
def placeholderSize : Nat := 256

/-- Brings a device up; its placeholder is its first native object. -/
def create (limits : Limits) : Action Platform Gpu := do
  if !(← get).script.adapter.serves limits then throw (.setup .deviceRefused)
  let connection ← modifyGet (Platform.connect limits)
  let placeholder ← Platform.createBuffer connection .placeholder placeholderSize
  pure { connection, adapter := (← get).script.adapterType, placeholder }

/-- A request to the platform over the device's connection. -/
def request {α : Type} (f : Connection → Platform → α × Platform) : Action (Live Gpu) α := do
  Live.request (f (← Live.self).connection)

/-- A request over the device's connection that may come to nothing. -/
def attempt {α : Type} (f : Connection → Action Platform α) : Action (Live Gpu) α := do
  Live.onPlatform (f (← Live.self).connection)

/-- Waits for one submission of the device or, without a fence, for all. -/
def wait (fence : Option Platform.Fence) : Action (Live Gpu) Unit := do
  let g ← Live.self
  Live.onPlatform (Platform.poll g.connection fence)

/-- Goes on only if a pointer's device is this one. -/
def checkLocal (target : DeviceId) : Action (Live Gpu) Unit := do
  let g ← Live.self
  Action.require (target = g.id) (.foreignPointer target g.id)

/-- The id of the device, which must have one: handles of an unregistered device would read as
null. -/
def registeredId : Action (Live Gpu) DeviceId := do
  let g ← Live.self
  Action.require (g.id ≠ .unassigned) .notRegistered
  pure g.id

end Gpu

end DeviceLayer
