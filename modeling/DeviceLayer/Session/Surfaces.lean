import DeviceLayer.Session.State

/-!
# Steps on surfaces

The name of a surface is also the name of its image.
-/

namespace DeviceLayer

/-- What a surface shows. -/
def Surface.info (s : Surface) : SurfaceInfo where
  image := s.image
  width := s.config.width
  height := s.config.height
  format := s.format

open Play in
def SurfaceStep.play : SurfaceStep → Play Answer
  | .create device request keep => do
    let key ← gpuKey device
    let surface ← onGpu key (Gpu.createSurface request)
    keepSurface keep ⟨key, surface⟩
    pure (.surface surface.info)
  | .targetImage name => return .allocation (← onSurface name Presenting.targetImage)
  | .present name => do
    onSurface name Presenting.presentImage
    pure .done
  | .resize name width height => do
    onSurface name (Presenting.resize width height)
    pure .done
  | .info name => return .surface (← onSurface name Presenting.current).info
  | .drop name => do
    let owned ← resolve .surface (·.surfaces) name
    modify fun s => { s with surfaces := s.surfaces.erase name }
    dropSurface owned
    pure .done

end DeviceLayer
