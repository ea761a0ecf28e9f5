import DeviceLayer.Binder
import DeviceLayer.Native.Roll
import DeviceLayer.Shader.Source

/-!
# Native objects

The objects of the graphics library that the device layer drives: buffers, textures, set layouts,
bind groups and pipelines. Each is named by its class and the order of its creation, and carries
the name that the trace shows for it, which with one connection is its own (see `Roll`).
-/

namespace DeviceLayer

/-- The classes of objects that have names. -/
inductive ObjectClass where
  | placeholder
  | staging
  | memory
  | pattern
  | image
  | frame
  | layout
  | computePipeline
  | renderPipeline
  deriving DecidableEq

/-- What the names of a class begin with. -/
def ObjectClass.stem : ObjectClass → String
  | .placeholder => "placeholder"
  | .staging => "staging"
  | .memory => "buf"
  | .pattern => "pattern"
  | .image => "tex"
  | .frame => "frame"
  | .layout => "layout"
  | .computePipeline => "compute"
  | .renderPipeline => "render"

/-- The name of an object: its class and its place in the order of creation. -/
structure ObjectName where
  kind : ObjectClass
  ordinal : Nat
  deriving DecidableEq

def ObjectName.text (n : ObjectName) : String := s!"{n.kind.stem}{n.ordinal}"

/-- What a native buffer is made for. -/
inductive BufferPurpose where
  /-- Bound where a binder leaves a slot empty. -/
  | placeholder
  /-- Receives bytes on their way to the host. -/
  | staging
  /-- Backs an allocation. -/
  | memory (type : MemoryType)
  /-- Holds the repeated word of a fill. -/
  | pattern
  deriving DecidableEq

namespace BufferPurpose

/-- The class of a buffer. -/
def kind : BufferPurpose → ObjectClass
  | .placeholder => .placeholder
  | .staging => .staging
  | .memory _ => .memory
  | .pattern => .pattern

def label : BufferPurpose → String
  | .placeholder => "strata placeholder"
  | .staging => "strata readback staging"
  | .memory .device => "strata device-local"
  | .memory .hostShared => "strata host-shared"
  | .memory .hostToDevice => "strata upload"
  | .memory .deviceToHost => "strata readback"
  | .pattern => "strata fill pattern"

end BufferPurpose

/-- A native buffer; `id` finds its contents. -/
structure Buffer where
  id : Nat
  connection : Connection
  purpose : BufferPurpose
  name : ObjectName
  /-- The name that the trace shows. -/
  shown : ObjectName
  deriving DecidableEq

/-- A native texture: an image of a device or a frame of a surface. -/
structure Texture where
  name : ObjectName
  /-- The name that the trace shows. -/
  shown : ObjectName
  deriving DecidableEq

/-- A native set layout. -/
structure NativeLayout where
  name : ObjectName
  /-- The name that the trace shows. -/
  shown : ObjectName
  deriving DecidableEq

/-- A native pipeline, for compute or for rendering. -/
structure NativePipeline where
  name : ObjectName
  /-- The name that the trace shows. -/
  shown : ObjectName
  deriving DecidableEq

namespace ResourceKind

/-- The shader stages that may see a slot: vertex, fragment and compute by their first letters.
Vertex shaders do not get writable storage. -/
def visibility : ResourceKind → String
  | .readWriteBuffer => "fc"
  | .readOnlyStorageBuffer | .readOnlyBuffer => "vfc"

/-- The native type of a slot. -/
def nativeType : ResourceKind → String
  | .readWriteBuffer => "storage"
  | .readOnlyStorageBuffer => "storage_read"
  | .readOnlyBuffer => "uniform"

end ResourceKind

/-- A window of a buffer bound to a slot; without a size it reaches to the end of the buffer. -/
structure BindEntry where
  binding : UInt32
  buffer : Buffer
  offset : Nat
  size : Option Nat
  deriving DecidableEq

/-- The windows bound to the slots of one set. -/
structure BindWindows where
  layout : NativeLayout
  entries : List BindEntry
  deriving DecidableEq

/-- A bind group. -/
structure BindGroup where
  windows : BindWindows
  /-- The windows that the trace shows. -/
  shown : BindWindows
  deriving DecidableEq

/-- One attribute of a vertex buffer slot, in native terms. -/
structure NativeAttribute where
  location : UInt32
  format : VertexFormat
  offset : UInt64
  deriving DecidableEq

/-- One vertex buffer slot, in native terms. -/
structure VertexBufferLayout where
  stride : UInt64 := 0
  perInstance : Bool := false
  attributes : List NativeAttribute := []
  deriving DecidableEq

/-- How a render pipeline treats depth. -/
structure DepthState where
  format : TextureFormat
  write : Bool
  /-- Keep a fragment only if it is not farther than what is there. -/
  test : Bool
  deriving DecidableEq

/-- The comparison of a depth state. -/
def DepthState.compareName (d : DepthState) : String :=
  if d.test then "GreaterEqual" else "Always"

/-- A compiled shader. -/
structure NativeModule where
  label : String
  /-- What it was compiled from. -/
  code : ShaderCode

/-- A shader as a stage of a pipeline. -/
structure NativeStage where
  module : NativeModule
  entryPoint : String

/-- The set layouts of a pipeline, by bind group index. -/
structure PipelineLayout where
  label : String
  sets : List NativeLayout

/-- What a compute pipeline is built from. -/
structure ComputePipelineDesc where
  label : String
  layout : PipelineLayout
  stage : NativeStage

/-- What a render pipeline is built from. -/
structure RenderPipelineDesc where
  label : String
  layout : PipelineLayout
  vertex : NativeStage
  buffers : List VertexBufferLayout
  /-- The fragment stage and the formats of the targets that it writes. -/
  fragment : Option (NativeStage × List TextureFormat)
  topology : Topology
  cull : CullMode
  depth : Option DepthState

end DeviceLayer
