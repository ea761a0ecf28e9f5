import DeviceLayer.Affine
import DeviceLayer.Session.State

/-!
# Steps on pipelines and kernels

A pipeline outlives the name of its device: it is a value that holds no device.
-/

namespace DeviceLayer

namespace Play

/-- Answers a new pipeline, under a name if it gets one. -/
def madePipeline (keep : Option String) (p : Pipeline) : Play Answer := do
  keepPipeline keep p
  pure (.madePipeline p.isGraphics p.sets.length)

/-- How many native pipelines were built for a raster pipeline. -/
def variantCount (s : Session) (p : Pipeline) : Nat := (s.world.platform.variantsOf p.id).size

end Play

open Play in
def PipelineStep.play : PipelineStep → Play Answer
  | .compute device name source keep => do
    let key ← gpuKey device
    madePipeline keep (← onGpu key (Gpu.createComputePipeline source name))
  | .raster device name request keep => do
    let key ← gpuKey device
    madePipeline keep (← onGpu key (Gpu.createRasterPipeline request name))
  | .info name => do
    let p ← pipeline name
    return .pipeline p (variantCount (← get) p)
  | .registerKernel name device number arguments groups => do
    let p ← pipeline name
    let key ← gpuKey device
    onGpu key (Gpu.registerKernel number { pipeline := p, arguments, groups })
    pure .done
  | .affine device count => do
    let key ← gpuKey device
    onWorld (World.runAffine key count)
    pure .done

end DeviceLayer
