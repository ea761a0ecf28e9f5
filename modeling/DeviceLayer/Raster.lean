import DeviceLayer.Format
import DeviceLayer.Memory
import DeviceLayer.Resource
import DeviceLayer.SinglePrecision

/-!
# Rasterisation vocabulary

The values that describe shader stages, fixed-function state, vertex input, render passes and
render areas. Render-pass and framebuffer descriptions double as cache keys, so they are compared
by their fields.
-/

namespace DeviceLayer

/-- The stage a shader runs in. -/
inductive Stage where
  | compute
  | vertex
  | fragment
  deriving DecidableEq

instance : Named Stage where
  all := [.compute, .vertex, .fragment]
  name
    | .compute => "Compute"
    | .vertex => "Vertex"
    | .fragment => "Fragment"

inductive Topology where
  | points
  | lines
  | triangles
  deriving DecidableEq

instance : Named Topology where
  all := [.points, .lines, .triangles]
  name
    | .points => "Points"
    | .lines => "Lines"
    | .triangles => "Triangles"

def Topology.nativeName : Topology → String
  | .points => "PointList"
  | .lines => "LineList"
  | .triangles => "TriangleList"

inductive CullMode where
  | none
  | front
  | back
  deriving DecidableEq

instance : Named CullMode where
  all := [.none, .front, .back]
  name
    | .none => "None"
    | .front => "Front"
    | .back => "Back"

/-- The native name of the culled face. -/
def CullMode.nativeName? : CullMode → Option String
  | .none => Option.none
  | .front => some "Front"
  | .back => some "Back"

/-- Fixed-function state of a raster pipeline. -/
structure RasterParams where
  topology : Topology := .triangles
  cull : CullMode := .none
  depthTest : Bool := false
  depthWrite : Bool := false

/-- One vertex buffer slot. -/
structure VertexInput where
  binding : UInt32
  stride : UInt64
  perInstance : Bool

/-- One attribute read from a vertex buffer slot. -/
structure VertexAttribute where
  location : UInt32
  binding : UInt32
  format : BufferFormat
  offset : UInt64

/-- Attachment formats and clear flags of a render pass. -/
structure RenderPassDesc where
  colors : List (BufferFormat × Bool)
  depth : Option BufferFormat
  clearDepth : Bool
  deriving DecidableEq

/-- The attachments a render pass is run over. -/
structure FramebufferDesc where
  attachments : List Allocation
  width : UInt32
  height : UInt32
  renderPass : CacheHandle
  deriving DecidableEq

/-- An image attached to a render pass, and whether the pass clears it first. -/
structure Attachment where
  image : Allocation
  clear : Bool

/-- The pixels from `(x0, y0)` up to, not including, `(x1, y1)`. -/
structure RenderArea where
  x0 : UInt32
  y0 : UInt32
  x1 : UInt32
  y1 : UInt32
  deriving DecidableEq

/-- A corner and the sides of what a pass draws onto, in whole single-precision numbers. -/
structure Viewport where
  x : Nat
  y : Nat
  width : Nat
  height : Nat
  deriving DecidableEq

namespace RenderArea

/-- Columns of the area; none when its sides are swapped. -/
def width (a : RenderArea) : UInt32 := if a.x0 ≤ a.x1 then a.x1 - a.x0 else 0

/-- Rows of the area; none when its sides are swapped. -/
def height (a : RenderArea) : UInt32 := if a.y0 ≤ a.y1 then a.y1 - a.y0 else 0

theorem toNat_width (a : RenderArea) : a.width.toNat = a.x1.toNat - a.x0.toNat := by
  unfold width
  split
  · rename_i h
    exact UInt32.toNat_sub_of_le _ _ h
  · rename_i h
    have : a.x1.toNat < a.x0.toNat := UInt32.lt_iff_toNat_lt.1 (UInt32.not_le.1 h)
    simp only [UInt32.toNat_zero]
    omega

theorem toNat_height (a : RenderArea) : a.height.toNat = a.y1.toNat - a.y0.toNat := by
  unfold height
  split
  · rename_i h
    exact UInt32.toNat_sub_of_le _ _ h
  · rename_i h
    have : a.y1.toNat < a.y0.toNat := UInt32.lt_iff_toNat_lt.1 (UInt32.not_le.1 h)
    simp only [UInt32.toNat_zero]
    omega

/-- The viewport nearest to an area. Each number is rounded for itself, so the viewport of an area
with coordinates past `2 ^ 24` may reach over its edges. -/
def viewport (a : RenderArea) : Viewport where
  x := nearestSingle a.x0.toNat
  y := nearestSingle a.y0.toNat
  width := nearestSingle a.width.toNat
  height := nearestSingle a.height.toNat

def text (a : RenderArea) : String :=
  "RenderArea \x7b x0: " ++ toString a.x0 ++ ", y0: " ++ toString a.y0 ++
    ", x1: " ++ toString a.x1 ++ ", y1: " ++ toString a.y1 ++ " \x7d"

end RenderArea

end DeviceLayer
