import DeviceLayer.Native.Command
import DeviceLayer.Surface.Config

/-!
# Events

The trace of everything the device layer asks of the world outside: of the graphics library, of
surfaces, and of devices behind a transport.
-/

namespace DeviceLayer

/-- What a list of native commands was recorded for. -/
inductive EncoderLabel where
  | commandList
  | readback
  | transfer
  deriving DecidableEq

def EncoderLabel.text : EncoderLabel → String
  | .commandList => "strata command list"
  | .readback => "strata readback"
  | .transfer => "strata transfer"

/-- A call that a device behind a transport receives. -/
inductive RemoteCall where
  | allocate (type : MemoryType) (size : UInt64)
  | deallocate (id : UInt32)
  | read (range : Range)
  | write (pointer : Pointer) (data : Storage)
  | barrier (range : Range)
  | syncRead (range : Range) (other : DeviceId)
  | syncWrite (range : Range) (other : DeviceId)
  | syncAll
  | launch (stream kernel : UInt32) (mapping : Mapping)
  | waitStream (stream : UInt32)

def RemoteCall.name : RemoteCall → String
  | .allocate .. => "allocate"
  | .deallocate .. => "deallocate"
  | .read .. => "read"
  | .write .. => "write"
  | .barrier .. => "barrier"
  | .syncRead .. => "sync_read"
  | .syncWrite .. => "sync_write"
  | .syncAll => "sync_all"
  | .launch .. => "launch"
  | .waitStream .. => "wait_stream"

/-- One request to the world outside. -/
inductive Event where
  | createBuffer (buffer : Buffer) (size : Nat)
  | createPattern (buffer : Buffer) (contents : Storage)
  | createTexture (texture : Texture) (format : TextureFormat) (width height : UInt32)
  | createSetLayout (layout : NativeLayout) (slots : SetLayout)
  | createBindGroup (windows : BindWindows)
  | createPipelineLayout (layout : PipelineLayout)
  | createShaderModule (module : NativeModule)
  | createComputePipeline (pipeline : NativePipeline) (desc : ComputePipelineDesc)
  | createRenderPipeline (pipeline : NativePipeline) (desc : RenderPipelineDesc)
  | writeBuffer (buffer : Buffer) (offset : Nat) (data : Storage)
  | submit (label : EncoderLabel) (commands : List Command)
  /-- A wait for one submission, or for all of them. -/
  | poll (oneSubmission succeeded : Bool)
  | configure (config : SurfaceConfig)
  | acquire (frame : Texture) (width height : UInt32)
  | acquireFailed (error : SurfaceError)
  | present (frame : Texture)
  | remote (device : DeviceId) (call : RemoteCall)

end DeviceLayer
