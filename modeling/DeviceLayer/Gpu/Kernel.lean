import DeviceLayer.Gpu.Submission

/-!
# Kernels

Compute pipelines by number. A launch binds the range mapped to each argument's node and queues
one dispatch.

* `Kernel.bind` — the binder of one launch.
* `Kernel.queue` — the list of one launch.
* `Gpu.registerKernel`, `Gpu.launchLocal`, `Gpu.waitStream`.
-/

namespace DeviceLayer

/-- The binder of a launch: every argument's slot holds the range mapped to its node. -/
def Kernel.bind (k : Kernel) (mapping : Mapping) : Except Fault Binder :=
  k.arguments.foldlM (fun binder a =>
    match mapping.get? a.node with
    | none => .error (.device (.precondition (.unmappedNode k.pipeline.name a.node)))
    | some range => binder.bind a.set a.binding .readWriteBuffer range.start range.length)
    k.pipeline.binder

/-- Records one dispatch of a kernel into the list at hand and queues the list. -/
def Kernel.queue (k : Kernel) (binder : Binder) : Action Recording Unit := do
  let (x, y, z) := k.groups
  Recording.bindPipeline k.pipeline
  Recording.bindResources binder
  Recording.dispatch x y z
  Recording.submit false

namespace Gpu

/-- Gives a kernel a number; one that had it before is replaced. -/
def registerKernel (number : UInt32) (kernel : Kernel) : Action (Live Gpu) Unit := do
  Action.require (!kernel.pipeline.isGraphics) (.rasterKernel number kernel.pipeline.name)
  Live.update fun g => { g with kernels := g.kernels.insert number kernel }

/-- Goes on only if the device has the stream. -/
def checkStream (stream : UInt32) : Action (Live Gpu) Unit :=
  Action.require (stream < streams) (.unknownStream stream streams)

/-- The kernel a launch asks for, with the binder it runs with. -/
def prepareLaunch (stream number : UInt32) (mapping : Mapping) :
    Action (Live Gpu) (Kernel × Binder) := do
  checkStream stream
  let kernel ← Action.orRefuse ((← Live.self).kernels.get? number) (.unknownKernel number)
  let binder ← Action.check (kernel.bind mapping)
  pure (kernel, binder)

/-- Runs a kernel whose ranges are all on this device. -/
def launchLocal (stream number : UInt32) (mapping : Mapping) : Action (Live Gpu) Unit := do
  let (kernel, binder) ← prepareLaunch stream number mapping
  usingList (← newList) (kernel.queue binder)

/-- Waits for a stream's work and reclaims what it used. -/
def waitStream (stream : UInt32) : Action (Live Gpu) Unit := do
  checkStream stream
  commandSync

end Gpu

end DeviceLayer
