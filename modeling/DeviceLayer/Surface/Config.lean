import DeviceLayer.Format

/-!
# Surface configuration

How the frames of a surface are made and shown.

* `chooseSurfaceFormat` — the pixel format, out of those a surface offers.
* `chooseAlphaMode` — the way a surface is blended with what is behind it.
-/

namespace DeviceLayer

/-- When a presented frame is shown. -/
inductive PresentMode where
  | autoVsync
  | autoNoVsync
  | fifo
  | fifoRelaxed
  | immediate
  | mailbox
  deriving DecidableEq

instance : Named PresentMode where
  all := [.autoVsync, .autoNoVsync, .fifo, .fifoRelaxed, .immediate, .mailbox]
  name
    | .autoVsync => "AutoVsync"
    | .autoNoVsync => "AutoNoVsync"
    | .fifo => "Fifo"
    | .fifoRelaxed => "FifoRelaxed"
    | .immediate => "Immediate"
    | .mailbox => "Mailbox"

/-- How a frame is blended with what is behind it. -/
inductive AlphaMode where
  | auto
  | opaqueMode
  | preMultiplied
  | postMultiplied
  | inherit
  deriving DecidableEq

instance : Named AlphaMode where
  all := [.auto, .opaqueMode, .preMultiplied, .postMultiplied, .inherit]
  name
    | .auto => "Auto"
    | .opaqueMode => "Opaque"
    | .preMultiplied => "PreMultiplied"
    | .postMultiplied => "PostMultiplied"
    | .inherit => "Inherit"

/-- What frames a surface hands out. -/
structure SurfaceConfig where
  width : UInt32
  height : UInt32
  format : TextureFormat
  presentMode : PresentMode
  alphaMode : AlphaMode
  /-- Frames that may wait to be shown. -/
  latency : UInt32

/-- What a caller asks of a surface. -/
structure SurfaceRequest where
  width : UInt32
  height : UInt32
  preferSrgb : Bool := true
  presentMode : PresentMode := .fifo
  alphaMode : Option AlphaMode := none
  latency : UInt32 := 2

/-- The formats that come first when a nonlinear format is preferred. -/
def preferredSurfaceFormats : List TextureFormat := [.bgra8UnormSrgb, .rgba8UnormSrgb]

/-- The first preferred format on offer, or else the first on offer; formats without an interface
format are passed over. -/
def chooseSurfaceFormat (offered : List TextureFormat) (preferSrgb : Bool) :
    Option TextureFormat :=
  let usable := offered.filter fun f => f.bufferFormat?.isSome
  let preferred := if preferSrgb then preferredSurfaceFormats.find? (usable.contains ·) else none
  preferred <|> usable.head?

/-- The requested mode if the surface has it, or else the first it has. -/
def chooseAlphaMode (offered : List AlphaMode) (requested : Option AlphaMode) : AlphaMode :=
  ((requested.filter (offered.contains ·)) <|> offered.head?).getD .auto

theorem chooseSurfaceFormat_named {offered : List TextureFormat} {preferSrgb : Bool}
    {f : TextureFormat} (h : chooseSurfaceFormat offered preferSrgb = some f) :
    f ∈ offered ∧ f.bufferFormat?.isSome := by
  have usable : f ∈ offered.filter fun f => f.bufferFormat?.isSome := by
    simp only [chooseSurfaceFormat] at h
    cases hp : (if preferSrgb then preferredSurfaceFormats.find?
        ((offered.filter fun f => f.bufferFormat?.isSome).contains ·) else none) with
    | none =>
      rw [hp] at h
      exact List.mem_of_head? h
    | some g =>
      rw [hp] at h
      cases h
      cases preferSrgb
      · cases hp
      · exact List.contains_iff_mem.1 (List.find?_some hp)
  exact List.mem_filter.1 usable

end DeviceLayer
