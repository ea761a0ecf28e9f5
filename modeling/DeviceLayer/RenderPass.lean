import DeviceLayer.Fault

/-!
# Render passes

A render pass description resolved to native formats.

* `RenderPassDesc.resolve` — the native formats of a description, or the attachment it cannot have.
* `RenderPassInfo.withLoadFlags` — the views of a pass, each with its clear flag.
-/

namespace DeviceLayer

/-- A render pass in native terms. -/
structure RenderPassInfo where
  colorFormats : List TextureFormat
  colorClear : List Bool
  depthFormat : Option TextureFormat
  clearDepth : Bool

/-- What a framebuffer was made of. -/
structure FramebufferInfo where
  attachments : List Allocation
  width : UInt32
  height : UInt32

/-- The native format of an attachment. -/
def attachmentFormat (f : BufferFormat) : Except DeviceError TextureFormat :=
  match f.texture? with
  | some t => .ok t
  | none => .error (.precondition (.notAttachable (Named.name f)))

/-- The native format of a color attachment. -/
def colorFormat (f : BufferFormat) : Except DeviceError TextureFormat :=
  if f.isDepth then .error (.precondition (.depthAsColor f)) else attachmentFormat f

/-- The native format of a depth attachment. -/
def depthFormat (f : BufferFormat) : Except DeviceError TextureFormat :=
  if f.isDepth then attachmentFormat f else .error (.precondition (.colorAsDepth f))

/-- The pass in native terms; the first attachment that cannot be one is named. -/
def RenderPassDesc.resolve (desc : RenderPassDesc) : Except DeviceError RenderPassInfo := do
  let colors ← desc.colors.mapM fun c => colorFormat c.1
  let depth ← desc.depth.mapM depthFormat
  pure ⟨colors, desc.colors.map (·.2), depth, desc.clearDepth⟩

/-- The number of attachments a framebuffer of this pass has. -/
def RenderPassInfo.attachmentCount (info : RenderPassInfo) : Nat :=
  info.colorFormats.length + if info.depthFormat.isSome then 1 else 0

/-- Pairs the views of a pass with its clear flags, in order. -/
def RenderPassInfo.withLoadFlags {α : Type} (info : RenderPassInfo) (colors : List α)
    (depth : Option α) : List (α × Bool) × Option (α × Bool) :=
  (colors.zip info.colorClear, depth.map fun view => (view, info.clearDepth))

end DeviceLayer
