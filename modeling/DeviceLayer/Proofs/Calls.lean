import DeviceLayer.Gpu.Kernel
import DeviceLayer.Gpu.Pipeline

/-!
# Calls to a graphics processor

What a client can ask of a device and of its command lists, as data: properties of every order of
calls quantify over lists of these.

* `MemoryCall`, `MemoryAnswer` — allocations and host access to them.
* `DeviceCall` — everything else that is asked of the device itself.
* `RecordingCall` — what is asked of a list that is being recorded.
-/

namespace DeviceLayer

/-- Bytes of the host; no object in its memory is larger. -/
abbrev HostData := { data : Storage // data.size ≤ maxObject }

inductive MemoryCall where
  | allocate (params : AllocParams)
  | deallocate (alloc : Allocation)
  | map (alloc : Allocation)
  | mapRange (start : Pointer) (size : UInt64)
  | unmap (alloc : Allocation)
  | read (range : Range)
  | write (dst : Pointer) (data : HostData)
  /-- The host reads a region that was mapped for it. -/
  | readRegion (region : MappedRegion)
  /-- The host writes into a region that was mapped for it. -/
  | writeRegion (region : MappedRegion) (offset : Nat) (data : HostData)

/-- What a client learns from a call that succeeds. -/
inductive MemoryAnswer where
  | done
  | allocation (alloc : Allocation)
  | region (region : MappedRegion)
  | bytes (bytes : Bytes)
  /-- The region is not mapped, or ends before the access does: the host has no such bytes. -/
  | outside

namespace Gpu

/-- Whether a region is one that the device has mapped at present. -/
def maps (g : Gpu) (region : MappedRegion) : Bool :=
  match (g.buffers.get? region.allocId).bind (·.mapping) with
  | some m => m.offset = region.offset && m.shadow.size = region.length
  | none => false

end Gpu

/-- The call as the device takes it. -/
def MemoryCall.run : MemoryCall → Action (Live Gpu) MemoryAnswer
  | .allocate params => .allocation <$> Gpu.allocate params
  | .deallocate alloc => do
    Gpu.deallocate alloc
    pure .done
  | .map alloc => .region <$> Gpu.map alloc
  | .mapRange start size => .region <$> Gpu.mapRange start size
  | .unmap alloc => do
    Gpu.unmap alloc
    pure .done
  | .read range => (fun data => .bytes data.toBytes) <$> Gpu.readRange range
  | .write dst data => do
    Gpu.writeRange dst data
    pure .done
  | .readRegion region => do
    let g ← Live.self
    pure (if g.maps region then .bytes (g.readRegion region).toBytes else .outside)
  | .writeRegion region offset data => do
    let g ← Live.self
    if g.maps region && offset + data.val.size ≤ region.length then
      Live.update fun g => g.writeRegion region offset data
      pure .done
    else pure .outside

/-- What is asked of a device itself, its command lists left aside. -/
inductive DeviceCall where
  | memory (call : MemoryCall)
  | copyWithin (dst : Pointer) (src : Range)
  | waitIdle
  | setLayout (slots : SetLayout)
  | renderPass (desc : RenderPassDesc)
  | framebuffer (desc : FramebufferDesc)
  | createImage (format : BufferFormat) (width height : UInt32)
  | importImage (format : TextureFormat) (width height : UInt32)
  | bindView (image : Allocation) (view : Option Texture) (width height : UInt32)
  | destroyImage (image : Allocation)
  | computePipeline (source : ShaderSource) (name : String)
  | rasterPipeline (request : Gpu.RasterRequest) (name : String)
  | registerKernel (number : UInt32) (kernel : Kernel)
  /-- Queues commands that a client took from a finalized list. -/
  | queueNative (commands : List Command)

/-- The call as the device takes it; only its effect matters. -/
def DeviceCall.run : DeviceCall → Action (Live Gpu) Unit
  | .memory call => discard call.run
  | .copyWithin dst src => discard (Gpu.copyWithin dst src)
  | .waitIdle => Gpu.waitIdle
  | .setLayout slots => discard (Gpu.setLayout slots)
  | .renderPass desc => discard (Gpu.renderPass desc)
  | .framebuffer desc => discard (Gpu.framebuffer desc)
  | .createImage format width height => discard (Gpu.createImage format width height)
  | .importImage format width height => discard (Gpu.importImage format width height)
  | .bindView image view width height => Gpu.bindView image view width height
  | .destroyImage image => Gpu.destroyImage image
  | .computePipeline source name => discard (Gpu.createComputePipeline source name)
  | .rasterPipeline request name => discard (Gpu.createRasterPipeline request name)
  | .registerKernel number kernel => Gpu.registerKernel number kernel
  | .queueNative commands => discard (Live.request (Platform.submit .commandList commands))

inductive RecordingCall where
  | bindPipeline (pipeline : Pipeline)
  | bindResources (binder : Binder)
  | barrier
  | copy (dst src : Pointer) (size : UInt64)
  | fill (pointer : Pointer) (size : UInt64) (word : UInt32)
  | dispatch (x y z : UInt32)
  | beginPass (area : RenderArea) (colors : List Attachment) (depth : Option Attachment)
  | endPass
  | draw (count first : UInt32)
  | drawIndexed (count baseVertex first : UInt32)

def RecordingCall.run : RecordingCall → Action Recording Unit
  | .bindPipeline pipeline => Recording.bindPipeline pipeline
  | .bindResources binder => Recording.bindResources binder
  | .barrier => Recording.barrier
  | .copy dst src size => Recording.copy dst src size
  | .fill pointer size word => Recording.fill pointer size word
  | .dispatch x y z => Recording.dispatch x y z
  | .beginPass area colors depth => Recording.beginPass area colors depth
  | .endPass => Recording.endPass
  | .draw count first => Recording.draw count first
  | .drawIndexed count baseVertex first => Recording.drawIndexed count baseVertex first

end DeviceLayer
