import DeviceLayer.CommandList.Recorded
import DeviceLayer.Gpu.Descriptor
import DeviceLayer.Gpu.Image

/-!
# Command lists

Work is recorded into a list and queued as a whole. A list is recording until it is finalized;
recording into a finalized list is a failed assertion. What a call refuses is not recorded, but
descriptor sets that it took stay with the list, which gives them back when it is dropped.

* `CommandList` — a list being recorded.
* `Recording` — a list together with the device it records for.
* `Recording.bindPipeline`, `bindResources`, `copy`, `fill`, `dispatch`, `beginPass`, `endPass`,
  `draw`, `drawIndexed`, `barrier` — the recording calls.
* `Recording.finalize` — ends recording.
-/

namespace DeviceLayer

/-- The layouts that bound resources have to follow. -/
structure BoundPipeline where
  graphics : Bool
  sets : List (CacheHandle × SetLayout)

/-- The render pass a list is in. -/
structure RenderTarget where
  pass : CacheHandle
  area : RenderArea

/-- A list of commands being recorded into a command buffer. -/
structure CommandList where
  buffer : CommandBufferId
  commands : Array Recorded := #[]
  /-- Descriptor sets taken while recording, in order. -/
  sets : List SetHandle := []
  bound : Option BoundPipeline := none
  target : Option RenderTarget := none
  finalized : Bool := false

/-- A list and the device it records for. -/
structure Recording where
  live : Live Gpu
  list : CommandList

namespace Recording

variable {α : Type}

/-- An action on the device alone. -/
def onDevice (action : Action (Live Gpu) α) : Action Recording α :=
  action.within (·.live) fun live r => { r with live := live }

/-- The list as it is. -/
def current : Action Recording CommandList := do return (← get).list

def updateList (f : CommandList → CommandList) : Action Recording Unit :=
  modify fun r => { r with list := f r.list }

def push (command : Recorded) : Action Recording Unit :=
  updateList fun l => { l with commands := l.commands.push command }

/-- Goes on only while the list is recording. -/
def checkRecording : Action Recording Unit := do
  Action.assert (!(← current).finalized) .listFinalized

/-- Goes on only outside a render pass. -/
def checkOutsidePass (what : String) : Action Recording Unit := do
  Action.require (← current).target.isNone (.insidePass what)

/-! ## Pipelines and resources -/

/-- What a raster pipeline needs to be built for a render pass. -/
def variantDesc (p : Pipeline) (t : RasterTemplate) (info : RenderPassInfo) :
    RenderPipelineDesc where
  label := p.name
  layout := p.layout
  vertex := t.vertex
  buffers := t.buffers
  fragment := t.fragment.map fun stage => (stage, info.colorFormats)
  topology := t.raster.topology
  cull := t.raster.cull
  depth := info.depthFormat.map fun format => ⟨format, t.raster.depthWrite, t.raster.depthTest⟩

/-- The native pipeline of a raster pipeline for a render pass, built on first use. -/
def variant (pipeline : Pipeline) (t : RasterTemplate) (pass : CacheHandle)
    (info : RenderPassInfo) : Action (Live Gpu) NativePipeline := do
  match ((← get).platform.variantsOf pipeline.id).get? pass with
  | some built => pure built
  | none =>
    Action.require (info.colorFormats.length = t.targets)
      (.targetCount pipeline.name t.targets info.colorFormats.length)
    let built ← Gpu.request (Platform.createRenderPipeline · (variantDesc pipeline t info))
    Live.onPlatform (modify (Platform.keepVariant pipeline.id pass built))
    pure built

/-- Makes a pipeline the bound one. A raster pipeline is bound inside a render pass, with the
pass's viewport; a compute pipeline outside. -/
def bindPipeline (pipeline : Pipeline) : Action Recording Unit := do
  checkRecording
  match pipeline.kind with
  | .compute native =>
    checkOutsidePass "compute pipeline bound"
    push (.computePipeline native)
  | .raster template =>
    let target ← Action.orRefuse (← current).target (.rasterOutsidePass pipeline.name)
    let info ← onDevice (Gpu.renderPassInfo target.pass)
    let native ← onDevice (variant pipeline template target.pass info)
    push (.renderPipeline native)
    push (.viewport target.area)
  updateList fun l => { l with bound := some ⟨pipeline.isGraphics, pipeline.sets⟩ }

/-- Takes and writes the set of one bind group index. -/
def bindSet (binder : Binder) (index : UInt32) (layout : CacheHandle) (slots : SetLayout) :
    Action Recording Unit := do
  let set ← onDevice (Gpu.allocSet layout)
  updateList fun l => { l with sets := l.sets ++ [set] }
  let group ← onDevice (Gpu.writeSet set slots binder index)
  push (.bindGroup index group)

/-- Binds the index and vertex buffers of a binder. -/
def bindGeometry (binder : Binder) : Action Recording Unit := do
  if let some (pointer, format) := binder.indexBuffer then
    let (buffer, offset) ← onDevice (Gpu.bufferSlice pointer)
    push (.indexBuffer buffer offset format)
  binder.vertexBuffers.toList.forM fun (slot, pointer) => do
    let (buffer, offset) ← onDevice (Gpu.bufferSlice pointer)
    push (.vertexBuffer slot buffer offset)

/-- Binds what a binder holds to the slots of the bound pipeline, one bind group after the other. -/
def bindResources (binder : Binder) : Action Recording Unit := do
  checkRecording
  let bound ← Action.orRefuse (← current).bound .resourcesBeforePipeline
  bound.sets.zipIdx.forM fun ((layout, slots), index) =>
    bindSet binder (UInt32.ofNat index) layout slots
  if bound.graphics then bindGeometry binder

/-! ## Barriers, copies and dispatches -/

/-- Orders what was recorded before what comes after. -/
def barrier : Action Recording Unit := do
  checkRecording
  push .barrier

/-- Copies `size` bytes between two places of the device. -/
def copy (dst src : Pointer) (size : UInt64) : Action Recording Unit := do
  checkRecording
  checkOutsidePass "buffer copy"
  let (srcBuffer, length) ← onDevice (Gpu.checkedRange src size)
  let (dstBuffer, _) ← onDevice (Gpu.checkedRange dst (UInt64.ofNat length))
  let srcOffset := src.offset.toNat
  let dstOffset := dst.offset.toNat
  Action.require (isAligned srcOffset && isAligned dstOffset && isAligned length)
    (.copyMisaligned length srcOffset dstOffset)
  push (.copy srcBuffer srcOffset dstBuffer dstOffset length)

/-- Fills `size` bytes with a repeated word. -/
def fill (pointer : Pointer) (size : UInt64) (word : UInt32) : Action Recording Unit := do
  checkRecording
  checkOutsidePass "buffer fill"
  let (buffer, length) ← onDevice (Gpu.checkedRange pointer size)
  let offset := pointer.offset.toNat
  Action.require (isAligned offset && isAligned length) (.fillMisaligned length offset)
  if length = 0 then return
  if word = 0 then
    push (.clear buffer offset length)
  else
    let pattern ← onDevice (Gpu.attempt (Platform.createPattern · (length / 4) word))
    push (.copy pattern 0 buffer offset length)

def dispatch (x y z : UInt32) : Action Recording Unit := do
  checkRecording
  Action.assert (← current).target.isNone .dispatchInsidePass
  push (.dispatch x y z)

/-! ## Render passes -/

/-- The attachments of a pass as they are collected: their formats, images and views, and the
extent of the first, which the others must have too. -/
structure Attachments where
  formats : List (BufferFormat × Bool) := []
  images : List Allocation := []
  views : List Texture := []
  extent : Option (UInt32 × UInt32) := none

/-- Resolves one attachment against the extent of those before it. -/
def resolveAttachment (extent : Option (UInt32 × UInt32)) (a : Attachment) :
    Action (Live Gpu) (BufferFormat × Texture × (UInt32 × UInt32)) := do
  let target ← Gpu.imageTarget a.image
  let (width, height) := extent.getD (target.width, target.height)
  Action.require ((width, height) = (target.width, target.height))
    (.attachmentExtent target.width target.height width height)
  let format ← Action.orRefuse target.format.bufferFormat? (.notAttachable target.format.name)
  pure (format, target.view, (width, height))

/-- Collects one color attachment. -/
def Attachments.add (c : Attachments) (a : Attachment) : Action (Live Gpu) Attachments := do
  let (format, view, extent) ← resolveAttachment c.extent a
  pure {
    formats := c.formats ++ [(format, a.clear)]
    images := c.images ++ [a.image]
    views := c.views ++ [view]
    extent := some extent }

/-- Begins a render pass over images of one extent; the area lies inside it and is not empty. -/
def beginPass (area : RenderArea) (colors : List Attachment) (depth : Option Attachment) :
    Action Recording Unit := do
  checkRecording
  checkOutsidePass "begin_renderpass"
  let c ← onDevice (colors.foldlM Attachments.add {})
  let d ← onDevice (depth.mapM (resolveAttachment c.extent))
  let desc : RenderPassDesc :=
    { colors := c.formats, depth := d.map (·.1), clearDepth := (depth.map (·.clear)).getD false }
  let images := c.images ++ (depth.map (·.image)).toList
  let (width, height) ← Action.orRefuse (c.extent <|> d.map (·.2.2)) .noAttachments
  let pass ← onDevice (Gpu.renderPass desc)
  let framebuffer ← onDevice (Gpu.framebuffer ⟨images, width, height, pass⟩)
  let fb ← onDevice (Gpu.framebufferInfo framebuffer)
  let info ← onDevice (Gpu.renderPassInfo pass)
  let (colorViews, depthView) := info.withLoadFlags c.views (d.map (·.2.1))
  Action.require
    (area.width ≠ 0 && area.height ≠ 0 && area.x1 ≤ fb.width && area.y1 ≤ fb.height)
    (.areaOutside area fb.width fb.height)
  push (.beginRenderPass area colorViews depthView)
  updateList fun l => { l with target := some ⟨pass, area⟩ }

/-- Ends the render pass; a raster pipeline is bound for the length of its pass only. -/
def endPass : Action Recording Unit := do
  checkRecording
  Action.assert (← current).target.isSome .endOutsidePass
  updateList fun l =>
    { l with target := none, bound := l.bound.filter fun b => !b.graphics }
  push .endRenderPass

/-- The end of a run of `count` elements from `first`, if it can be numbered. -/
def runEnd? (first count : UInt32) : Option UInt32 :=
  if first.toNat + count.toNat < UInt32.size then some (first + count) else none

/-- Draws `count` vertices from `first` on; a run that cannot be numbered is left out. -/
def draw (count first : UInt32) : Action Recording Unit := do
  checkRecording
  Action.assert (← current).target.isSome .drawOutsidePass
  if let some past := runEnd? first count then push (.draw first past)

/-- Draws `count` indices from `first` on, each counted from a base vertex; a run or a base vertex
that cannot be numbered is left out. -/
def drawIndexed (count baseVertex first : UInt32) : Action Recording Unit := do
  checkRecording
  Action.assert (← current).target.isSome .drawIndexedOutsidePass
  if baseVertex < 0x80000000 then
    if let some past := runEnd? first count then push (.drawIndexed first past baseVertex)

/-! ## End of recording -/

/-- Ends recording and gives the native commands of the list, once; an open render pass is closed
first. -/
def finalize : Action Recording (Option (List Command)) := do
  let l ← current
  if l.finalized then return none
  if l.target.isSome then push .endRenderPass
  let commands := (← current).commands
  updateList fun l => { l with target := none, finalized := true, commands := #[] }
  return some (encode commands.toList)

end Recording

end DeviceLayer
