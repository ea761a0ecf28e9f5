import DeviceLayer.Session.Step

/-!
# Answers of a session

What a step answers, as the values it is about, and why a step could not be taken.

* `Answer` — the answer of a step that was taken.
* `Halt` — a step that was not: a fault of the device layer, or a reference that does not fit.
* `Reply` — an answer or a halt, with the trace that the step left.
-/

namespace DeviceLayer

/-- What can be asked of any device. -/
structure DeviceInfo where
  id : DeviceId
  /-- The id a registry gave, if one did. -/
  slot : Option DeviceId
  type : DeviceType
  capabilities : Capabilities
  /-- Available memory of each memory type. -/
  memory : List UInt64
  /-- The streams of a device that runs kernels. -/
  streams : Option UInt32
  /-- Blocks that are in use, where the device counts them. -/
  live : Option Nat

/-- How much a graphics processor keeps. -/
structure ObjectCounts where
  setLayouts : Nat
  renderPasses : Nat
  framebuffers : Nat
  kernels : Nat
  /-- Bytes of the placeholder. -/
  placeholder : Nat
  stats : SubmissionStats

/-- What a surface shows. -/
structure SurfaceInfo where
  image : Allocation
  width : UInt32
  height : UInt32
  format : BufferFormat

inductive Answer where
  /-- The step was taken; there is nothing to say. -/
  | done
  | count (n : Nat)
  | flag (yes : Bool)
  | bytes (data : Bytes)
  | allocation (alloc : Allocation)
  | alias (pointer : Option Pointer)
  | registry (size capacity : Nat)
  | registered (found : Option (DeviceId × DeviceType))
  | device (info : DeviceInfo)
  | region (length : Nat)
  | binder (binder : Binder)
  | slot (slot : Option Binding) (writes : Nat) (hasLayout : Bool)
  | set (set : SetHandle)
  | poolUsage (usage : Option (Nat × Nat))
  | counts (counts : ObjectCounts)
  | renderPass (info : RenderPassInfo)
  | framebuffer (info : FramebufferInfo)
  | image (target : ImageTarget)
  | madePipeline (graphics : Bool) (sets : Nat)
  | pipeline (pipeline : Pipeline) (variants : Nat)
  | list (finalized : Bool) (sets : Nat)
  | surface (info : SurfaceInfo)

/-- Kinds of things that have names. -/
inductive Noun where
  | device
  | allocation
  | handle
  | binder
  | pipeline
  | list
  | surface
  | region
  | native
  deriving DecidableEq

instance : Named Noun where
  all := [.device, .allocation, .handle, .binder, .pipeline, .list, .surface, .region, .native]
  name
    | .device => "device"
    | .allocation => "allocation"
    | .handle => "handle"
    | .binder => "binder"
    | .pipeline => "pipeline"
    | .list => "list"
    | .surface => "surface"
    | .region => "region"
    | .native => "native"

/-- Why a step was not taken. -/
inductive Halt where
  | fault (fault : Fault)
  | unbound (what : Noun) (name : String)
  /-- The name does not stand for a graphics processor. -/
  | notGpu (name : String)
  /-- The name does not stand for a device behind a transport. -/
  | notRemote (name : String)
  | noCompute (name : String)
  | outOfRegion (name : String)
  deriving DecidableEq

namespace Halt

def kindName : Halt → String
  | .fault f => f.kindName
  | .unbound .. => "unbound"
  | .notGpu _ => "not_gpu"
  | .notRemote _ => "not_mock"
  | .noCompute _ => "no_compute"
  | .outOfRegion _ => "out_of_region"

def text : Halt → String
  | .fault f => f.text
  | .unbound what name => s!"{Named.name what} {name}"
  | .notGpu name | .notRemote name | .noCompute name | .outOfRegion name => name

end Halt

/-- The outcome of a step and the trace it left. -/
structure Reply where
  result : Except Halt Answer
  log : List Event

end DeviceLayer
