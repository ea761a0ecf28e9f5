import DeviceLayer.Session.State

/-!
# Steps on cached objects and images

The caches, descriptor pools and images of one graphics processor.
-/

namespace DeviceLayer

namespace Play

/-- The graphics processor behind a key. -/
def gpu (key : DeviceKey) : Play Gpu := onGpu key Live.self

/-- How much a graphics processor keeps. -/
def counts (key : DeviceKey) : Play ObjectCounts := do
  let g ← gpu key
  let p := (← get).world.platform
  pure {
    setLayouts := g.layouts.size
    renderPasses := g.passes.size
    framebuffers := g.framebuffers.size
    kernels := g.kernels.size
    placeholder := p.bufferSize g.placeholder
    stats := g.tracker.stats }

/-- Answers a new handle, under a name if it gets one. -/
def madeHandle (keep : Option String) (handle : CacheHandle) : Play Answer := do
  keepHandle keep handle
  pure (.count handle.index.toNat)

/-- Answers a new allocation, under a name if it gets one. -/
def madeAllocation (keep : Option String) (alloc : Allocation) : Play Answer := do
  keepAllocation keep alloc
  pure (.allocation alloc)

end Play

open Play in
def ObjectStep.play : ObjectStep → Play Answer
  | .setLayout device entries keep => do
    let key ← gpuKey device
    madeHandle keep (← onGpu key (Gpu.setLayout (.ofEntries entries)))
  | .renderPass device desc keep => do
    let key ← gpuKey device
    madeHandle keep (← onGpu key (Gpu.renderPass desc))
  | .framebuffer refs pass device width height keep => do
    let attachments ← refs.mapM allocation
    let renderPass ← handle pass
    let key ← gpuKey device
    madeHandle keep (← onGpu key (Gpu.framebuffer { attachments, width, height, renderPass }))
  | .renderPassInfo device ref => do
    let key ← gpuKey device
    let h ← handle ref
    return .renderPass (← onGpu key (Gpu.renderPassInfo h))
  | .framebufferInfo device ref => do
    let key ← gpuKey device
    let h ← handle ref
    return .framebuffer (← onGpu key (Gpu.framebufferInfo h))
  | .allocSet device ref => do
    let key ← gpuKey device
    let h ← handle ref
    return .set (← onGpu key (Gpu.allocSet h))
  | .poolUsage device ref => do
    let key ← gpuKey device
    let h ← handle ref
    return .poolUsage (Gpu.poolUsage (← gpu key) h)
  | .counts device => do
    return .counts (← Play.counts (← gpuKey device))
  | .createImage device format width height keep => do
    let key ← gpuKey device
    madeAllocation keep (← onGpu key (Gpu.createImage format width height))
  | .importImage device format width height keep => do
    let key ← gpuKey device
    madeAllocation keep (← onGpu key (Gpu.importImage format width height))
  | .bindView device image viewOf width height => do
    let key ← gpuKey device
    let view ← viewOf.mapM fun ref => do
      let source ← allocation ref
      return (← onGpu key (Gpu.imageTarget source)).view
    let target ← allocation image
    onGpu key (Gpu.bindView target view width height)
    pure .done
  | .destroyImage device image => do
    let key ← gpuKey device
    let alloc ← allocation image
    onGpu key (Gpu.destroyImage alloc)
    pure .done
  | .nativeBuffer device ref => do
    let key ← gpuKey device
    let alloc ← allocation ref
    let buffer ← onGpu key (Gpu.nativeBuffer alloc)
    return .count ((← get).world.platform.bufferSize buffer)
  | .nativeImage device image => do
    let key ← gpuKey device
    let alloc ← allocation image
    return .image (← onGpu key (Gpu.imageTarget alloc))

end DeviceLayer
