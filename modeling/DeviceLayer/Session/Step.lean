import DeviceLayer.Gpu.Pipeline
import DeviceLayer.World

/-!
# Steps of a session

What a session can be asked to do. A step refers to things by the names they were given, and may
give its result a name (`keep`). The steps come in families:

* `DeviceStep` — the registry, devices, and what the world outside does from now on;
* `MemoryStep` — the operations of any device, with transfers and launches;
* `BinderStep` — resource binders;
* `ObjectStep` — cached native objects and images of a graphics processor;
* `PipelineStep` — pipelines and kernels;
* `ListStep` — command lists;
* `SurfaceStep` — surfaces.
-/

namespace DeviceLayer

/-! ## References -/

/-- An allocation, by a name it was given or as it is. -/
inductive AllocRef where
  | named (name : String)
  | exact (alloc : Allocation)

/-- A pointer into an allocation. -/
inductive PointerRef where
  | null
  | into (alloc : AllocRef) (offset : UInt64)

/-- A handle, by a name it was given or as it is. -/
inductive HandleRef where
  | named (name : String)
  | exact (handle : CacheHandle)

/-! ## Devices -/

/-- What a new registry holds. -/
inductive RegistryRequest where
  /-- A host device at the first position. -/
  | withHost
  /-- Nothing, with room for so many devices. -/
  | empty (capacity : Nat)

/-- What a new device is. -/
inductive DeviceRequest where
  | host
  | gpu (limits : Limits) (adapterFound : Bool)
  | remote (device : Remote)

/-- Changes to what the world outside answers; what is not given stays as it is. -/
structure ScriptChange where
  adapterType : Option AdapterType := none
  pollFailures : Option Nat := none
  surfaceFormats : Option (List TextureFormat) := none
  alphaModes : Option (List AlphaMode) := none
  /-- Frames that come after those that are waiting. -/
  frames : List FrameOutcome := []
  surfaceSupported : Option Bool := none
  surfaceCreationFails : Option Bool := none

def Script.change (s : Script) (c : ScriptChange) : Script where
  adapterType := c.adapterType.getD s.adapterType
  polls := (c.pollFailures.map (List.replicate · false)).getD s.polls
  surfaceFormats := c.surfaceFormats.getD s.surfaceFormats
  alphaModes := c.alphaModes.getD s.alphaModes
  frames := s.frames ++ c.frames
  surfaceSupported := c.surfaceSupported.getD s.surfaceSupported
  surfaceCreationFails := c.surfaceCreationFails.getD s.surfaceCreationFails

inductive DeviceStep where
  | replaceRegistry (request : RegistryRequest)
  | registryInfo
  | syncRegistry
  | create (request : DeviceRequest) (keep : Option String)
  | register (device : String)
  | lookup (id : DeviceId)
  /-- Names a registered device. -/
  | fetch (id : DeviceId) (keep : Option String)
  | drop (device : String)
  | info (device : String)
  /-- Sets which calls of a device behind a transport fail. -/
  | setFailing (device : String) (calls : List String)
  | script (change : ScriptChange)

/-! ## Memory -/

/-- What a kernel's nodes see, as a session writes it; of two entries for a node the last counts. -/
abbrev MappingRef := List (Int × PointerRef × UInt64)

inductive MemoryStep where
  | allocate (device : String) (params : AllocParams) (keep : Option String)
  | deallocate (device : String) (alloc : AllocRef)
  | map (device : String) (alloc : AllocRef) (keep : Option String)
  | mapRange (device : String) (start : PointerRef) (size : UInt64) (keep : Option String)
  | unmap (device : String) (alloc : AllocRef)
  | readRegion (region : String)
  | writeRegion (region : String) (offset : Nat) (data : Bytes)
  | read (device : String) (start : PointerRef) (length : UInt64)
  | write (device : String) (dst : PointerRef) (data : Bytes)
  | transfer (device source : String) (dst start : PointerRef) (length : UInt64)
  | barrier (device : String) (start : PointerRef) (length : UInt64)
  | syncRead (device other : String) (start : PointerRef) (length : UInt64)
  | syncWrite (device other : String) (start : PointerRef) (length : UInt64)
  | syncAll (device : String)
  | localAlias (device : String) (start : PointerRef) (length : UInt64)
  | isAlias (device : String) (pointer : PointerRef)
  | launch (device : String) (stream kernel : UInt32) (mapping : MappingRef)
  | launchLocal (device : String) (stream kernel : UInt32) (mapping : MappingRef)
  | waitStream (device : String) (stream : UInt32)

/-! ## Binders -/

/-- How much of an allocation a binding spans. -/
inductive BindExtent where
  /-- `size` bytes from the pointer on. -/
  | window (size : UInt64)
  /-- The whole allocation behind the pointer. -/
  | whole

inductive BinderStep where
  | create (keep : Option String)
  | ofPipeline (pipeline : String) (keep : Option String)
  | clone (binder : String) (keep : Option String)
  | info (binder : String)
  | lock (binder : String)
  | bind (pointer : PointerRef) (binder : String) (group binding : UInt32) (kind : ResourceKind)
      (extent : BindExtent)
  | vertexBuffer (pointer : PointerRef) (binder : String) (binding : UInt32)
  | indexBuffer (pointer : PointerRef) (binder : String) (format : IndexFormat)
  | slot (binder : String) (group binding : UInt32)
  | register (source : ShaderSource) (binder : String)

/-! ## Native objects -/

inductive ObjectStep where
  | setLayout (device : String) (entries : List (UInt32 × ResourceKind)) (keep : Option String)
  | renderPass (device : String) (desc : RenderPassDesc) (keep : Option String)
  | framebuffer (attachments : List AllocRef) (pass : HandleRef) (device : String)
      (width height : UInt32) (keep : Option String)
  | renderPassInfo (device : String) (handle : HandleRef)
  | framebufferInfo (device : String) (handle : HandleRef)
  | allocSet (device : String) (layout : HandleRef)
  | poolUsage (device : String) (layout : HandleRef)
  | counts (device : String)
  | createImage (device : String) (format : BufferFormat) (width height : UInt32)
      (keep : Option String)
  | importImage (device : String) (format : TextureFormat) (width height : UInt32)
      (keep : Option String)
  /-- Gives an image the view of another, or none. -/
  | bindView (device : String) (image : AllocRef) (viewOf : Option AllocRef)
      (width height : UInt32)
  | destroyImage (device : String) (image : AllocRef)
  | nativeBuffer (device : String) (alloc : AllocRef)
  | nativeImage (device : String) (image : AllocRef)

/-! ## Pipelines and kernels -/

inductive PipelineStep where
  | compute (device name : String) (source : ShaderSource) (keep : Option String)
  | raster (device name : String) (request : Gpu.RasterRequest) (keep : Option String)
  | info (pipeline : String)
  | registerKernel (pipeline device : String) (number : UInt32) (arguments : List KernelArgument)
      (groups : UInt32 × UInt32 × UInt32)
  | affine (device : String) (count : Nat)

/-! ## Command lists -/

/-- An image attached to a render pass. -/
abbrev AttachmentRef := AllocRef × Bool

/-- A call to a command list. -/
inductive ListCall where
  | bindPipeline (pipeline : String)
  /-- Binds the same binder so many times. -/
  | bindResources (binder : String) (times : Nat)
  | bufferBarrier (pointer : PointerRef)
  | memoryBarrier
  | copy (dst src : PointerRef) (size : UInt64)
  | fill (pointer : PointerRef) (size : UInt64) (word : UInt32)
  | dispatch (x y z : UInt32)
  | beginPass (area : RenderArea) (colors : List AttachmentRef) (depth : Option AttachmentRef)
  | endPass
  | draw (count first : UInt32)
  | drawIndexed (count baseVertex first : UInt32)
  | info
  | finalize (keep : Option String)

inductive ListStep where
  | create (device : String) (keep : Option String)
  | call (list : String) (call : ListCall)
  /-- Uses a list up. -/
  | submit (list : String) (wait : Bool)
  | drop (list : String)
  /-- Queues the native commands of a finalized list, once. -/
  | queue (device native : String)
  | sync (device : String)

/-! ## Surfaces -/

inductive SurfaceStep where
  | create (device : String) (request : SurfaceRequest) (keep : Option String)
  | targetImage (surface : String)
  | present (surface : String)
  | resize (surface : String) (width height : UInt32)
  | info (surface : String)
  | drop (surface : String)

/-- One step of a session. -/
inductive Step where
  | device (step : DeviceStep)
  | memory (step : MemoryStep)
  | binder (step : BinderStep)
  | object (step : ObjectStep)
  | pipeline (step : PipelineStep)
  | list (step : ListStep)
  | surface (step : SurfaceStep)

end DeviceLayer
