import DeviceLayer.Named

/-!
# Element formats

The formats callers name for image pixels and vertex attributes, and the native formats they
stand for.

* `BufferFormat.texture?` and `TextureFormat.bufferFormat?` — native pixel formats and back;
  `BufferFormat.bufferFormat?_of_texture?` says that the way back is exact.
* `BufferFormat.vertex?` — native vertex formats.
-/

namespace DeviceLayer

/-- Formats of the device interface. -/
inductive BufferFormat where
  | r8 | rg8 | rgba8 | rgba8Srgb | bgra8 | bgra8Srgb
  | r8u | rg8u | rgba8u | r8i | rg8i | rgba8i
  | r16 | rg16 | rgba16 | r16f | rg16f | rgba16f
  | r32u | rg32u | rgb32u | rgba32u
  | r32i | rg32i | rgb32i | rgba32i
  | r32f | rg32f | rgb32f | rgba32f
  | depth16 | depth24Stencil8 | depth32f
  deriving DecidableEq

/-- Native pixel formats; the last case names those that no interface format stands for. -/
inductive TextureFormat where
  | r8Unorm | rg8Unorm | rgba8Unorm | rgba8UnormSrgb | bgra8Unorm | bgra8UnormSrgb
  | r8Uint | rg8Uint | rgba8Uint | r8Sint | rg8Sint | rgba8Sint
  | r16Unorm | rg16Unorm | rgba16Unorm | r16Float | rg16Float | rgba16Float
  | r32Uint | rg32Uint | rgba32Uint
  | r32Sint | rg32Sint | rgba32Sint
  | r32Float | rg32Float | rgba32Float
  | depth16Unorm | depth24PlusStencil8 | depth32Float
  | foreign (name : String)
  deriving DecidableEq

/-- Native formats of vertex attributes. -/
inductive VertexFormat where
  | unorm8x2 | unorm8x4 | uint8x2 | uint8x4 | sint8x2 | sint8x4
  | unorm16x2 | unorm16x4 | float16x2 | float16x4
  | uint32 | uint32x2 | uint32x3 | uint32x4
  | sint32 | sint32x2 | sint32x3 | sint32x4
  | float32 | float32x2 | float32x3 | float32x4
  deriving DecidableEq

instance : Named BufferFormat where
  all := [.r8, .rg8, .rgba8, .rgba8Srgb, .bgra8, .bgra8Srgb,
    .r8u, .rg8u, .rgba8u, .r8i, .rg8i, .rgba8i,
    .r16, .rg16, .rgba16, .r16f, .rg16f, .rgba16f,
    .r32u, .rg32u, .rgb32u, .rgba32u, .r32i, .rg32i, .rgb32i, .rgba32i,
    .r32f, .rg32f, .rgb32f, .rgba32f, .depth16, .depth24Stencil8, .depth32f]
  name
    | .r8 => "R8" | .rg8 => "Rg8" | .rgba8 => "Rgba8" | .rgba8Srgb => "Rgba8Srgb"
    | .bgra8 => "Bgra8" | .bgra8Srgb => "Bgra8Srgb"
    | .r8u => "R8u" | .rg8u => "Rg8u" | .rgba8u => "Rgba8u"
    | .r8i => "R8i" | .rg8i => "Rg8i" | .rgba8i => "Rgba8i"
    | .r16 => "R16" | .rg16 => "Rg16" | .rgba16 => "Rgba16"
    | .r16f => "R16f" | .rg16f => "Rg16f" | .rgba16f => "Rgba16f"
    | .r32u => "R32u" | .rg32u => "Rg32u" | .rgb32u => "Rgb32u" | .rgba32u => "Rgba32u"
    | .r32i => "R32i" | .rg32i => "Rg32i" | .rgb32i => "Rgb32i" | .rgba32i => "Rgba32i"
    | .r32f => "R32f" | .rg32f => "Rg32f" | .rgb32f => "Rgb32f" | .rgba32f => "Rgba32f"
    | .depth16 => "Depth16" | .depth24Stencil8 => "Depth24Stencil8" | .depth32f => "Depth32f"

instance : Named VertexFormat where
  all := [.unorm8x2, .unorm8x4, .uint8x2, .uint8x4, .sint8x2, .sint8x4,
    .unorm16x2, .unorm16x4, .float16x2, .float16x4, .uint32, .uint32x2, .uint32x3, .uint32x4,
    .sint32, .sint32x2, .sint32x3, .sint32x4, .float32, .float32x2, .float32x3, .float32x4]
  name
    | .unorm8x2 => "Unorm8x2" | .unorm8x4 => "Unorm8x4"
    | .uint8x2 => "Uint8x2" | .uint8x4 => "Uint8x4"
    | .sint8x2 => "Sint8x2" | .sint8x4 => "Sint8x4"
    | .unorm16x2 => "Unorm16x2" | .unorm16x4 => "Unorm16x4"
    | .float16x2 => "Float16x2" | .float16x4 => "Float16x4"
    | .uint32 => "Uint32" | .uint32x2 => "Uint32x2" | .uint32x3 => "Uint32x3"
    | .uint32x4 => "Uint32x4"
    | .sint32 => "Sint32" | .sint32x2 => "Sint32x2" | .sint32x3 => "Sint32x3"
    | .sint32x4 => "Sint32x4"
    | .float32 => "Float32" | .float32x2 => "Float32x2" | .float32x3 => "Float32x3"
    | .float32x4 => "Float32x4"

namespace BufferFormat

def isDepth : BufferFormat → Bool
  | .depth16 | .depth24Stencil8 | .depth32f => true
  | _ => false

/-- The native pixel format; three-channel formats have none. -/
def texture? : BufferFormat → Option TextureFormat
  | .r8 => some .r8Unorm
  | .rg8 => some .rg8Unorm
  | .rgba8 => some .rgba8Unorm
  | .rgba8Srgb => some .rgba8UnormSrgb
  | .bgra8 => some .bgra8Unorm
  | .bgra8Srgb => some .bgra8UnormSrgb
  | .r8u => some .r8Uint
  | .rg8u => some .rg8Uint
  | .rgba8u => some .rgba8Uint
  | .r8i => some .r8Sint
  | .rg8i => some .rg8Sint
  | .rgba8i => some .rgba8Sint
  | .r16 => some .r16Unorm
  | .rg16 => some .rg16Unorm
  | .rgba16 => some .rgba16Unorm
  | .r16f => some .r16Float
  | .rg16f => some .rg16Float
  | .rgba16f => some .rgba16Float
  | .r32u => some .r32Uint
  | .rg32u => some .rg32Uint
  | .rgba32u => some .rgba32Uint
  | .r32i => some .r32Sint
  | .rg32i => some .rg32Sint
  | .rgba32i => some .rgba32Sint
  | .r32f => some .r32Float
  | .rg32f => some .rg32Float
  | .rgba32f => some .rgba32Float
  | .depth16 => some .depth16Unorm
  | .depth24Stencil8 => some .depth24PlusStencil8
  | .depth32f => some .depth32Float
  | .rgb32u | .rgb32i | .rgb32f => none

/-- The native vertex format, when a vertex attribute can have this format. -/
def vertex? : BufferFormat → Option VertexFormat
  | .rg8 => some .unorm8x2
  | .rgba8 => some .unorm8x4
  | .rg8u => some .uint8x2
  | .rgba8u => some .uint8x4
  | .rg8i => some .sint8x2
  | .rgba8i => some .sint8x4
  | .rg16 => some .unorm16x2
  | .rgba16 => some .unorm16x4
  | .rg16f => some .float16x2
  | .rgba16f => some .float16x4
  | .r32u => some .uint32
  | .rg32u => some .uint32x2
  | .rgb32u => some .uint32x3
  | .rgba32u => some .uint32x4
  | .r32i => some .sint32
  | .rg32i => some .sint32x2
  | .rgb32i => some .sint32x3
  | .rgba32i => some .sint32x4
  | .r32f => some .float32
  | .rg32f => some .float32x2
  | .rgb32f => some .float32x3
  | .rgba32f => some .float32x4
  | _ => none

end BufferFormat

namespace TextureFormat

def name : TextureFormat → String
  | .r8Unorm => "R8Unorm"
  | .rg8Unorm => "Rg8Unorm"
  | .rgba8Unorm => "Rgba8Unorm"
  | .rgba8UnormSrgb => "Rgba8UnormSrgb"
  | .bgra8Unorm => "Bgra8Unorm"
  | .bgra8UnormSrgb => "Bgra8UnormSrgb"
  | .r8Uint => "R8Uint"
  | .rg8Uint => "Rg8Uint"
  | .rgba8Uint => "Rgba8Uint"
  | .r8Sint => "R8Sint"
  | .rg8Sint => "Rg8Sint"
  | .rgba8Sint => "Rgba8Sint"
  | .r16Unorm => "R16Unorm"
  | .rg16Unorm => "Rg16Unorm"
  | .rgba16Unorm => "Rgba16Unorm"
  | .r16Float => "R16Float"
  | .rg16Float => "Rg16Float"
  | .rgba16Float => "Rgba16Float"
  | .r32Uint => "R32Uint"
  | .rg32Uint => "Rg32Uint"
  | .rgba32Uint => "Rgba32Uint"
  | .r32Sint => "R32Sint"
  | .rg32Sint => "Rg32Sint"
  | .rgba32Sint => "Rgba32Sint"
  | .r32Float => "R32Float"
  | .rg32Float => "Rg32Float"
  | .rgba32Float => "Rgba32Float"
  | .depth16Unorm => "Depth16Unorm"
  | .depth24PlusStencil8 => "Depth24PlusStencil8"
  | .depth32Float => "Depth32Float"
  | .foreign name => name

/-- The interface format that stands for a native one. -/
def bufferFormat? : TextureFormat → Option BufferFormat
  | .r8Unorm => some .r8
  | .rg8Unorm => some .rg8
  | .rgba8Unorm => some .rgba8
  | .rgba8UnormSrgb => some .rgba8Srgb
  | .bgra8Unorm => some .bgra8
  | .bgra8UnormSrgb => some .bgra8Srgb
  | .r8Uint => some .r8u
  | .rg8Uint => some .rg8u
  | .rgba8Uint => some .rgba8u
  | .r8Sint => some .r8i
  | .rg8Sint => some .rg8i
  | .rgba8Sint => some .rgba8i
  | .r16Unorm => some .r16
  | .rg16Unorm => some .rg16
  | .rgba16Unorm => some .rgba16
  | .r16Float => some .r16f
  | .rg16Float => some .rg16f
  | .rgba16Float => some .rgba16f
  | .r32Uint => some .r32u
  | .rg32Uint => some .rg32u
  | .rgba32Uint => some .rgba32u
  | .r32Sint => some .r32i
  | .rg32Sint => some .rg32i
  | .rgba32Sint => some .rgba32i
  | .r32Float => some .r32f
  | .rg32Float => some .rg32f
  | .rgba32Float => some .rgba32f
  | .depth16Unorm => some .depth16
  | .depth24PlusStencil8 => some .depth24Stencil8
  | .depth32Float => some .depth32f
  | .foreign _ => none

/-- The native format with this name. -/
def ofName (s : String) : TextureFormat :=
  (((Named.all (α := BufferFormat)).filterMap BufferFormat.texture?).find? (·.name == s)).getD
    (.foreign s)

end TextureFormat

/-- A native format read back is the format it was made from. -/
theorem BufferFormat.bufferFormat?_of_texture? {f : BufferFormat} {t : TextureFormat}
    (h : f.texture? = some t) : t.bufferFormat? = some f := by
  cases f <;> simp [texture?] at h <;> subst h <;> rfl

end DeviceLayer
