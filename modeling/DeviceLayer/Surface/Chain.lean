import DeviceLayer.Gpu.Image

/-!
# Surfaces

A surface hands out frames to draw to, one at a time: a frame is acquired, drawn to and presented.
All frames of a surface are one image allocation, whose view changes with every frame, so that
caches see one key.

* `Gpu.createSurface` — a surface and its image.
* `Presenting.targetImage`, `presentImage`, `resize` — the frame protocol.
* `Gpu.dropSurface` — gives the image back.
-/

namespace DeviceLayer

/-- A surface of a device. -/
structure Surface where
  config : SurfaceConfig
  format : BufferFormat
  /-- Stands for every frame of the surface. -/
  image : Allocation
  /-- The frame that has been acquired and not presented. -/
  frame : Option Texture := none

/-- A surface and the device it belongs to. -/
structure Presenting where
  live : Live Gpu
  surface : Surface

namespace Gpu

/-- The image of a new surface; whatever stops it stops the surface. -/
def surfaceImage (config : SurfaceConfig) : Action (Live Gpu) Allocation := fun s =>
  match importImage config.format config.width config.height s with
  | .ok image s => .ok image s
  | .error _ s => .error (.setup .surfaceImage) s

/-- Makes a surface; a side without pixels is given one. -/
def createSurface (request : SurfaceRequest) : Action (Live Gpu) Surface := do
  let script := (← get).platform.script
  if script.surfaceCreationFails then throw (.setup .surfaceNotCreated)
  if !script.surfaceSupported then throw (.setup .surfaceNotSupported)
  let some native := chooseSurfaceFormat script.surfaceFormats request.preferSrgb
    | throw (.setup .noSurfaceFormat)
  let some format := native.bufferFormat? | throw (.setup .surfaceFormatUnnamed)
  let config : SurfaceConfig := {
    width := max request.width 1
    height := max request.height 1
    format := native
    presentMode := request.presentMode
    alphaMode := chooseAlphaMode script.alphaModes request.alphaMode
    latency := request.latency }
  Live.record (.configure config)
  let image ← surfaceImage config
  pure { config, format, image }

/-- Drops a surface and what it holds; an image that is gone already is no fault. -/
def dropSurface (surface : Surface) : Action (Live Gpu) Unit :=
  (destroyImage surface.image).settle

end Gpu

namespace Presenting

variable {α : Type}

/-- An action on the device alone. -/
def onDevice (action : Action (Live Gpu) α) : Action Presenting α :=
  action.within (·.live) fun live p => { p with live := live }

/-- The surface as it is. -/
def current : Action Presenting Surface := do return (← get).surface

def updateSurface (f : Surface → Surface) : Action Presenting Unit :=
  modify fun p => { p with surface := f p.surface }

/-- Asks for a frame once. -/
def requestFrame : Action Presenting (Except SurfaceError (Texture × UInt32 × UInt32)) := do
  let config := (← current).config
  onDevice (Gpu.request (Platform.acquireFrame · config))

/-- Sets the frames up anew. -/
def configure : Action Presenting Unit := do
  let config := (← current).config
  onDevice (Live.record (.configure config))

/-- The next frame. A surface that was lost or is outdated is set up anew and asked once more. -/
def acquire : Action Presenting (Texture × UInt32 × UInt32) := do
  match ← requestFrame with
  | .ok frame => pure frame
  | .error .lost | .error .outdated =>
    configure
    match ← requestFrame with
    | .ok frame => pure frame
    | .error e => Action.backend (.acquireAfterReconfigure e)
  | .error e => Action.backend (.acquire e)

/-- Acquires the next frame as the surface's image. -/
def targetImage : Action Presenting Allocation := do
  Action.require (← current).frame.isNone .frameNotPresented
  let (frame, width, height) ← acquire
  let image := (← current).image
  onDevice (Gpu.bindView image (some frame) width height)
  updateSurface fun s => { s with frame := some frame }
  pure image

/-- Presents the frame that was acquired last. -/
def presentImage : Action Presenting Unit := do
  let s ← current
  let frame ← Action.orRefuse s.frame .noFrame
  updateSurface fun s => { s with frame := none }
  onDevice (Gpu.bindView s.image none s.config.width s.config.height)
  onDevice (Live.record (.present frame))

/-- Follows the window to another size; a size without pixels is left until it has some. -/
def resize (width height : UInt32) : Action Presenting Unit := do
  if width = 0 ∨ height = 0 then return
  updateSurface fun s => { s with config := { s.config with width, height } }
  configure

end Presenting

end DeviceLayer
