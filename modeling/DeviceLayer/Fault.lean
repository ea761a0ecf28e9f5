import DeviceLayer.Raster
import DeviceLayer.Text.Utf8

/-!
# Faults

Why an operation did not finish. A refusal is kept as its cause; the wording is in one place.

* `DeviceError` — an operation answered with an error: a limit, a broken precondition, a failed
  native call, or something the device does not do.
* `Assertion` — an operation was stopped by a failed assertion or by arithmetic that left its
  word.
* `NativeRefusal` — an operation was stopped by the graphics library, which does not return from a
  call that it refuses.
* `SetupFailure` — a device, a surface or a demonstration run could not be set up or completed.
* `Fault` — any of the four.
-/

namespace DeviceLayer

/-- Why the host could not serve a block. -/
inductive HostRefusal where
  /-- The block is larger than any object may be. -/
  | tooLarge
  /-- The host has no such block to give. -/
  | outOfMemory
  deriving DecidableEq

/-- A bounded table, pool or memory that is full. -/
inductive Limit where
  | devices (capacity : Nat)
  | hostBlock (size : UInt64) (why : HostRefusal)
  | descriptorPool (capacity : Nat)
  | bufferSize (size : UInt64) (max : UInt64)
  | imageExtent (width height max : UInt32)
  | other (message : String)
  deriving DecidableEq

/-- Why a surface gave no frame. -/
inductive SurfaceError where
  | timeout
  | outdated
  | lost
  | outOfMemory
  | other
  deriving DecidableEq

/-- A native call that failed. -/
inductive BackendFailure where
  | pollTimeout
  | acquire (error : SurfaceError)
  | acquireAfterReconfigure (error : SurfaceError)
  | remoteCall (call : String)
  | fence (number : Int)
  | other (message : String)
  deriving DecidableEq

/-- What is wrong with a shader binary. -/
inductive BinaryDefect where
  | incompleteData
  | invalidHeader
  | invalidWordCount
  deriving DecidableEq

/-- A rule that the caller broke. -/
inductive Precondition where
  -- registry and ranges
  | transferElsewhere (target owner : DeviceId)
  | alreadyRegistered (id : DeviceId)
  | unknownDevice (id : DeviceId)
  | foreignToHost (alloc : Allocation) (owner : DeviceId)
  | unknownAllocation (alloc : Allocation)
  | spanExceeds (offset length total : Nat)
  | hostMapped (alloc : Allocation)
  | hostNotMapped (alloc : Allocation)
  -- memory of a graphics processor
  | foreignPointer (target owner : DeviceId)
  | notRegistered
  | rangeExceeds (length offset total : Nat)
  | unknownBuffer (id : UInt32)
  | notMappable (id : UInt32)
  | alreadyMapped (id : UInt32)
  | notMapped (id : UInt32)
  | nativeBounds (first past size : Nat)
  | offsetOutside (offset total : Nat)
  -- images and passes
  | noImageFormat (format : BufferFormat)
  | unknownImage (id : UInt32)
  | noView (id : UInt32)
  | unknownRenderPass (handle : CacheHandle)
  | unknownFramebuffer (handle : CacheHandle)
  | attachmentCount (expected given : Nat)
  | depthAsColor (format : BufferFormat)
  | colorAsDepth (format : BufferFormat)
  | notAttachable (format : String)
  -- descriptors
  | unknownSetLayout (handle : CacheHandle)
  | bindingPastEnd (set binding allocId : UInt32)
  | bindingMisaligned (set binding : UInt32) (offset : Nat) (alignment : UInt32)
  -- shaders and pipelines
  | sourceNotUtf8 (defect : Utf8.Defect)
  | invalidText
  | invalidBinary (defect : BinaryDefect)
  | noEntryPoint (stage : Stage) (name : String)
  | notComputeShader (pipeline : String) (stage : Stage)
  | computeInRaster (pipeline : String)
  | stageTwice (pipeline : String) (stage : Stage)
  | noVertexShader (pipeline : String)
  | undeclaredVertexBinding (location binding : UInt32)
  | notVertexFormat (format : BufferFormat)
  | notRenderTarget (format : BufferFormat)
  | targetCount (pipeline : String) (declared given : Nat)
  -- kernels
  | rasterKernel (kernel : UInt32) (pipeline : String)
  | unknownKernel (kernel : UInt32)
  | unmappedNode (pipeline : String) (node : Int)
  | unknownStream (stream streams : UInt32)
  -- command lists
  | alreadyInFlight (buffer : String)
  | finalizedByCaller
  | insidePass (what : String)
  | rasterOutsidePass (pipeline : String)
  | resourcesBeforePipeline
  | copyMisaligned (length src dst : Nat)
  | fillMisaligned (length offset : Nat)
  | attachmentExtent (width height passWidth passHeight : UInt32)
  | noAttachments
  | areaOutside (area : RenderArea) (width height : UInt32)
  -- surfaces
  | frameNotPresented
  | noFrame
  -- devices behind a transport
  | remoteNoAllocation (id : UInt32)
  | remoteOutOfBounds
  | other (message : String)
  deriving DecidableEq

/-- An operation answered with an error. -/
inductive DeviceError where
  | resourceLimit (limit : Limit)
  | precondition (cause : Precondition)
  | backend (failure : BackendFailure)
  | unsupported (message : String)
  deriving DecidableEq

/-- Word arithmetic that is checked. -/
inductive Arithmetic where
  | add
  | multiply
  deriving DecidableEq

/-- A failed assertion. -/
inductive Assertion where
  | overflow (operation : Arithmetic)
  | slotLocked (set binding : UInt32) (held asked : ResourceKind)
  | listFinalized
  | dispatchInsidePass
  | endOutsidePass
  | drawOutsidePass
  | drawIndexedOutsidePass
  | typeTooLarge
  | capacityOverflow
  deriving DecidableEq

/-- What the graphics library does not make. -/
inductive NativeRefusal where
  /-- A buffer that is larger than the limit of its device. -/
  | buffer (label : String) (size : Nat) (max : UInt64)
  /-- A bind group, with the library's own words. -/
  | bindGroup (words : String)
  deriving DecidableEq

/-- A device, a surface or a demonstration run that did not come about. -/
inductive SetupFailure where
  | noAdapter
  | deviceRefused
  | surfaceNotCreated
  | surfaceNotSupported
  | noSurfaceFormat
  | surfaceFormatUnnamed
  | surfaceImage
  | valuesDiffer (wrong count : Nat)
  deriving DecidableEq

/-- Why an operation did not finish. -/
inductive Fault where
  | device (error : DeviceError)
  | assertion (failed : Assertion)
  | native (refusal : NativeRefusal)
  | setup (failure : SetupFailure)
  deriving DecidableEq

/-! ## Wording -/

namespace HostRefusal

def text : HostRefusal → String
  | .tooLarge =>
    "memory allocation failed because the computed capacity exceeded the collection's maximum"
  | .outOfMemory => "memory allocation failed because the memory allocator returned an error"

end HostRefusal

namespace Limit

def text : Limit → String
  | .devices capacity => s!"device capacity {capacity} exhausted"
  | .hostBlock size why => s!"host allocation of {size} bytes failed: {why.text}"
  | .descriptorPool capacity => s!"descriptor pool of {capacity} sets exhausted"
  | .bufferSize size max => s!"allocation of {size} bytes exceeds max buffer size {max}"
  | .imageExtent width height max => s!"image of {width}x{height} outside 1..={max}"
  | .other message => message

end Limit

instance : Named SurfaceError where
  all := [.timeout, .outdated, .lost, .outOfMemory, .other]
  name
    | .timeout => "Timeout"
    | .outdated => "Outdated"
    | .lost => "Lost"
    | .outOfMemory => "OutOfMemory"
    | .other => "Other"

namespace SurfaceError

def text : SurfaceError → String
  | .timeout => "A timeout was encountered while trying to acquire the next frame"
  | .outdated => "The underlying surface has changed, and therefore the swap chain must be updated"
  | .lost => "The swap chain has been lost and needs to be recreated"
  | .outOfMemory => "There is no more memory left to allocate a new frame"
  | .other =>
    "Acquiring a texture failed with a generic error. Check error callbacks for more information"

end SurfaceError

namespace BackendFailure

def text : BackendFailure → String
  | .pollTimeout => "wgpu device poll failed: Timeout"
  | .acquire error => s!"surface acquire failed: {error.text}"
  | .acquireAfterReconfigure error => s!"surface acquire failed after reconfigure: {error.text}"
  | .remoteCall call => s!"mock {call} failed"
  | .fence number => s!"fence {number} timed out"
  | .other message => message

end BackendFailure

def BinaryDefect.text : BinaryDefect → String
  | .incompleteData => "incomplete data"
  | .invalidHeader => "invalid header"
  | .invalidWordCount => "invalid word count"

namespace Precondition

def text : Precondition → String
  | .transferElsewhere target owner =>
    s!"transfer destination lives on {target.text}, not {owner.text}"
  | .alreadyRegistered id => s!"device already registered as {id.text}"
  | .unknownDevice id => s!"unknown device {id.text}"
  | .foreignToHost alloc owner =>
    s!"allocation {alloc.text} does not belong to host device {owner.text}"
  | .unknownAllocation alloc => s!"unknown allocation {alloc.text}"
  | .spanExceeds offset length total =>
    s!"range {offset}+{length} exceeds allocation of {total} bytes"
  | .hostMapped alloc => s!"{alloc.text} is already mapped"
  | .hostNotMapped alloc => s!"{alloc.text} is not mapped"
  | .foreignPointer target owner => s!"pointer into {target.text} used on device {owner.text}"
  | .notRegistered => "wgpu device must be registered before it allocates"
  | .rangeExceeds length offset total =>
    s!"{length} bytes at offset {offset} exceed allocation of {total} bytes"
  | .unknownBuffer id => s!"unknown buffer allocation {id}"
  | .notMappable id => s!"allocation {id} is device-local and cannot be mapped"
  | .alreadyMapped id => s!"allocation {id} is already mapped"
  | .notMapped id => s!"allocation {id} is not mapped"
  | .nativeBounds first past size => s!"range {first}..{past} exceeds buffer of {size} bytes"
  | .offsetOutside offset total => s!"offset {offset} outside allocation of {total} bytes"
  | .noImageFormat format => s!"{Named.name format} has no image format"
  | .unknownImage id => s!"unknown image allocation {id}"
  | .noView id => s!"image {id} has no acquired view"
  | .unknownRenderPass handle => s!"unknown render pass {handle.text}"
  | .unknownFramebuffer handle => s!"unknown framebuffer {handle.text}"
  | .attachmentCount expected given =>
    s!"render pass takes {expected} attachments, framebuffer has {given}"
  | .depthAsColor format => s!"{Named.name format} used as a color attachment"
  | .colorAsDepth format => s!"{Named.name format} used as a depth attachment"
  | .notAttachable format => s!"{format} cannot be a render attachment"
  | .unknownSetLayout handle => s!"unknown set layout {handle.text}"
  | .bindingPastEnd set binding allocId =>
    s!"binding ({set}, {binding}) spans past allocation {allocId}"
  | .bindingMisaligned set binding offset alignment =>
    s!"binding ({set}, {binding}) offset {offset} is not {alignment}-byte aligned"
  | .sourceNotUtf8 defect => s!"WGSL source is not UTF-8: {defect.text}"
  | .invalidText => "invalid WGSL"
  | .invalidBinary defect => s!"invalid SPIR-V: {defect.text}"
  | .noEntryPoint stage name => s!"no {Named.name stage} entry point named `{name}`"
  | .notComputeShader pipeline stage =>
    s!"compute pipeline `{pipeline}` given a {Named.name stage} shader"
  | .computeInRaster pipeline => s!"raster pipeline `{pipeline}` given a compute shader"
  | .stageTwice pipeline stage =>
    s!"raster pipeline `{pipeline}` has two {Named.name stage} shaders"
  | .noVertexShader pipeline => s!"raster pipeline `{pipeline}` has no vertex shader"
  | .undeclaredVertexBinding location binding =>
    s!"attribute {location} references undeclared vertex binding {binding}"
  | .notVertexFormat format => s!"{Named.name format} is not a vertex format"
  | .notRenderTarget format => s!"{Named.name format} cannot be a render target"
  | .targetCount pipeline declared given =>
    s!"pipeline `{pipeline}` declares {declared} render targets, render pass has {given}"
  | .rasterKernel kernel pipeline =>
    s!"kernel {kernel} needs a compute pipeline, `{pipeline}` is a raster pipeline"
  | .unknownKernel kernel => s!"kernel {kernel} is not registered"
  | .unmappedNode pipeline node =>
    s!"kernel `{pipeline}` expects node {node}, which is not mapped"
  | .unknownStream stream streams => s!"stream {stream} out of range, device has {streams}"
  | .alreadyInFlight buffer => s!"command buffer {buffer} is already in flight"
  | .finalizedByCaller => "command list was finalized by its caller, nothing left to submit"
  | .insidePass what => s!"{what} inside a render pass"
  | .rasterOutsidePass pipeline => s!"raster pipeline `{pipeline}` bound outside a render pass"
  | .resourcesBeforePipeline => "bind_resources before bind_pipeline"
  | .copyMisaligned length src dst =>
    s!"copy of {length} bytes from {src} to {dst} is not 4-byte aligned"
  | .fillMisaligned length offset => s!"fill of {length} bytes at {offset} is not 4-byte aligned"
  | .attachmentExtent width height passWidth passHeight =>
    s!"attachment of {width}x{height} in a {passWidth}x{passHeight} render pass"
  | .noAttachments => "render pass without attachments"
  | .areaOutside area width height =>
    s!"render area {area.text} outside {width}x{height} framebuffer"
  | .frameNotPresented => "previous surface image was not presented"
  | .noFrame => "present without an acquired surface image"
  | .remoteNoAllocation id => s!"mock has no allocation {id}"
  | .remoteOutOfBounds => "mock range out of bounds"
  | .other message => message

end Precondition

namespace DeviceError

/-- The class an error belongs to. -/
def kindName : DeviceError → String
  | .resourceLimit _ => "ResourceLimit"
  | .precondition _ => "Precondition"
  | .backend _ => "Backend"
  | .unsupported _ => "Unsupported"

/-- The full wording, which begins with the class. -/
def text : DeviceError → String
  | .resourceLimit limit => "resource limit reached: " ++ limit.text
  | .precondition cause => "precondition violated: " ++ cause.text
  | .backend failure => "backend call failed: " ++ failure.text
  | .unsupported message => "unsupported: " ++ message

/-- The error of a class, by the class's name, with wording of the caller's own. -/
def ofKindName? (kind message : String) : Option DeviceError :=
  [.resourceLimit (.other message), .precondition (.other message), .backend (.other message),
    .unsupported message].find? (·.kindName == kind)

/-- Whether the caller broke a rule. -/
def isPrecondition : DeviceError → Bool
  | .precondition _ => true
  | _ => false

end DeviceError

namespace Assertion

def text : Assertion → String
  | .overflow .add => "attempt to add with overflow"
  | .overflow .multiply => "attempt to multiply with overflow"
  | .slotLocked set binding held asked =>
    s!"binding ({set}, {binding}) is locked as {Named.name held}, " ++
      s!"cannot rebind as {Named.name asked}"
  | .listFinalized => "command list is finalized"
  | .dispatchInsidePass => "dispatch inside a render pass"
  | .endOutsidePass => "end_renderpass without begin_renderpass"
  | .drawOutsidePass => "draw outside a render pass"
  | .drawIndexedOutsidePass => "draw_indexed outside a render pass"
  | .typeTooLarge => "type is too large"
  | .capacityOverflow => "capacity overflow"

end Assertion

namespace NativeRefusal

/-- The call that was refused, and its label. -/
def call : NativeRefusal → String × String
  | .buffer label _ _ => ("create_buffer", label)
  | .bindGroup _ => ("create_bind_group", "strata descriptor set")

def reason : NativeRefusal → String
  | .buffer _ size max =>
    s!"Buffer size {size} is greater than the maximum buffer size ({max})"
  | .bindGroup words => words

def text (r : NativeRefusal) : String :=
  "wgpu error: Validation Error\n\nCaused by:\n  In Device::" ++ r.call.1 ++ ", label = '" ++
    r.call.2 ++ "'\n    " ++ r.reason ++ "\n\n"

end NativeRefusal

namespace SetupFailure

def text : SetupFailure → String
  | .noAdapter => "failed to find a suitable GPU adapter"
  | .deviceRefused => "failed to create wgpu device/queue"
  | .surfaceNotCreated => "failed to create wgpu surface"
  | .surfaceNotSupported => "adapter noop wgpu backend cannot present to this surface"
  | .noSurfaceFormat => "no supported surface formats"
  | .surfaceFormatUnnamed => "surface format has no image format"
  | .surfaceImage => "failed to register the surface image"
  | .valuesDiffer wrong count => s!"{wrong} of {count} values differ after the launch"

end SetupFailure

namespace Fault

def kindName : Fault → String
  | .device error => error.kindName
  | .assertion _ => "panic"
  | .native _ => "native"
  | .setup _ => "anyhow"

def text : Fault → String
  | .device error => error.text
  | .assertion failed => failed.text
  | .native refusal => refusal.text
  | .setup failure => failure.text

end Fault

end DeviceLayer
