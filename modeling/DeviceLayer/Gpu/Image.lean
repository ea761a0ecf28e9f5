import DeviceLayer.Gpu.Memory

/-!
# Images

Images share the id counter of allocations. An image owns a texture, or stands for frames that a
surface owns; such an image has a view only while a frame is held.
-/

namespace DeviceLayer.Gpu

/-- The image behind an allocation id. -/
def image (id : UInt32) : Action (Live Gpu) Image := do
  Action.orRefuse ((← Live.self).images.get? id) (.unknownImage id)

def putImage (id : UInt32) (i : Image) : Action (Live Gpu) Unit :=
  Live.update fun g => { g with images := g.images.insert id i }

/-- A two-dimensional image that can be attached to render passes. -/
def createImage (format : BufferFormat) (width height : UInt32) :
    Action (Live Gpu) Allocation := do
  let device ← registeredId
  let native ← Action.orRefuse format.texture? (.noImageFormat format)
  let limit := (← Live.self).limits.maxTextureDimension
  if width = 0 ∨ height = 0 ∨ limit < width ∨ limit < height then
    Action.exhausted (.imageExtent width height limit)
  let texture ← request (Platform.createTexture · native width height)
  let id ← takeAllocId
  putImage id ⟨some texture, native, width, height⟩
  pure ⟨device, id⟩

/-- An image whose texture is owned elsewhere; it has no view yet. -/
def importImage (format : TextureFormat) (width height : UInt32) :
    Action (Live Gpu) Allocation := do
  let device ← registeredId
  let id ← takeAllocId
  putImage id ⟨none, format, width, height⟩
  pure ⟨device, id⟩

def destroyImage (alloc : Allocation) : Action (Live Gpu) Unit := do
  checkLocal alloc.device
  discard <| image alloc.id
  Live.update fun g => { g with images := g.images.erase alloc.id }

/-- Gives an image another view and extent. -/
def bindView (alloc : Allocation) (view : Option Texture) (width height : UInt32) :
    Action (Live Gpu) Unit := do
  let i ← image alloc.id
  putImage alloc.id { i with view, width, height }

/-- What drawing to an image draws to. -/
def imageTarget (alloc : Allocation) : Action (Live Gpu) ImageTarget := do
  checkLocal alloc.device
  let i ← image alloc.id
  let view ← Action.orRefuse i.view (.noView alloc.id)
  pure ⟨view, i.format, i.width, i.height⟩

/-! ## Render passes and framebuffers -/

/-- The handle of a render pass, resolved on first sight. -/
def renderPass (desc : RenderPassDesc) : Action (Live Gpu) CacheHandle := do
  let (handle, passes) ← (← Live.self).passes.getOrInsert desc (Action.checked desc.resolve)
  Live.update fun g => { g with passes := passes }
  pure handle

/-- The render pass behind a handle. -/
def renderPassInfo (handle : CacheHandle) : Action (Live Gpu) RenderPassInfo := do
  Action.orRefuse ((← Live.self).passes.get? handle) (.unknownRenderPass handle)

/-- The handle of a framebuffer: color attachments first, then depth. Its images are looked at on
first sight only. -/
def framebuffer (desc : FramebufferDesc) : Action (Live Gpu) CacheHandle := do
  let pass ← renderPassInfo desc.renderPass
  Action.require (desc.attachments.length = pass.attachmentCount)
    (.attachmentCount pass.attachmentCount desc.attachments.length)
  let (handle, framebuffers) ← (← Live.self).framebuffers.getOrInsert desc do
    desc.attachments.forM fun a => discard <| image a.id
    pure ⟨desc.attachments, desc.width, desc.height⟩
  Live.update fun g => { g with framebuffers := framebuffers }
  pure handle

/-- The framebuffer behind a handle. -/
def framebufferInfo (handle : CacheHandle) : Action (Live Gpu) FramebufferInfo := do
  Action.orRefuse ((← Live.self).framebuffers.get? handle) (.unknownFramebuffer handle)

end DeviceLayer.Gpu
