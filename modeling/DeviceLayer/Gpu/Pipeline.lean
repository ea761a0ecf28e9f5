import DeviceLayer.Gpu.Descriptor
import DeviceLayer.Shader.Reflection

/-!
# Pipelines

A pipeline reflects its shaders into a locked binder and has a pipeline layout made from it. A
compute pipeline is built at once; a raster pipeline keeps a template, from which one native
pipeline is built for each render pass it is used in.

* `vertexBuffers` — the vertex buffer slots of a list of inputs and attributes.
* `Gpu.pipelineLayout` — the layouts of all bind group indices.
* `Gpu.createComputePipeline`, `Gpu.createRasterPipeline`.
-/

namespace DeviceLayer

/-- The slots that a list of inputs declares; gaps between them are empty slots. -/
def declaredSlots (inputs : List VertexInput) : Nat :=
  inputs.foldl (fun n i => max n (i.binding.toNat + 1)) 0

/-- Gives a declared slot its stride and step mode. -/
def declareInput (slots : List VertexBufferLayout) (i : VertexInput) : List VertexBufferLayout :=
  slots.modify i.binding.toNat fun s => { s with stride := i.stride, perInstance := i.perInstance }

/-- Adds an attribute to the slot it reads. -/
def addAttribute (slots : List VertexBufferLayout) (a : VertexAttribute) :
    Except DeviceError (List VertexBufferLayout) :=
  if slots.length ≤ a.binding.toNat then
    .error (.precondition (.undeclaredVertexBinding a.location a.binding))
  else match a.format.vertex? with
    | none => .error (.precondition (.notVertexFormat a.format))
    | some format =>
      .ok (slots.modify a.binding.toNat fun s =>
        { s with attributes := s.attributes ++ [⟨a.location, format, a.offset⟩] })

/-- The vertex buffer slots of a pipeline, by slot number. -/
def vertexBuffers (inputs : List VertexInput) (attributes : List VertexAttribute) :
    Except DeviceError (List VertexBufferLayout) :=
  attributes.foldlM addAttribute
    (inputs.foldl declareInput (List.replicate (declaredSlots inputs) {}))

namespace Gpu

/-- One more than the highest set of a binder, unless it leaves the word. -/
def groupCount (b : Binder) : Except Fault Nat :=
  match b.sets.keys.getLast? with
  | none => .ok 0
  | some last =>
    if last = 0xFFFFFFFF then .error (.assertion (.overflow .add)) else .ok (last.toNat + 1)

/-- The layouts of all bind group indices of a binder, and the native layout of them all. Set `n`
binds at index `n`, and an index below the highest set that no shader uses gets an empty layout. -/
def pipelineLayout (binder : Binder) (name : String) :
    Action (Live Gpu) (List (CacheHandle × SetLayout) × PipelineLayout) := do
  let count ← Action.check (groupCount binder)
  let sets ← (List.range count).mapM fun index => do
    let slots := (binder.setLayout? (UInt32.ofNat index)).getD ∅
    let handle ← setLayout slots
    let entry ← layoutEntry handle
    pure (entry.native, handle, slots)
  let layout : PipelineLayout := ⟨name, sets.map (·.1)⟩
  Live.record (.createPipelineLayout layout)
  pure (sets.map (·.2), layout)

/-- Compiles a source. -/
def shaderModule (source : ShaderSource) (name : String) : Action (Live Gpu) NativeModule := do
  let module : NativeModule := ⟨name, source.code⟩
  Live.record (.createShaderModule module)
  pure module

/-- A pipeline that runs one compute shader. -/
def createComputePipeline (source : ShaderSource) (name : String) :
    Action (Live Gpu) Pipeline := do
  Action.require (source.stage = .compute) (.notComputeShader name source.stage)
  let reflection ← Action.check source.reflectStage
  let binder := lockedBinder [reflection]
  let (sets, layout) ← pipelineLayout binder name
  let module ← shaderModule source name
  let native ← request (Platform.createComputePipeline ·
    { label := name, layout, stage := ⟨module, source.entryPoint⟩ })
  let id ← Live.request Platform.registerPipeline
  pure { id, name, binder, sets, layout, kind := .compute native }

/-- The stages of a raster pipeline as its sources are taken in. -/
structure RasterStages where
  vertex : Option NativeStage := none
  fragment : Option NativeStage := none
  reflections : List Reflection := []

/-- Takes in the source of one stage. -/
def RasterStages.add (name : String) (stages : RasterStages) (source : ShaderSource) :
    Action (Live Gpu) RasterStages := do
  let taken ← match source.stage with
    | .compute => Action.refuse (.computeInRaster name)
    | .vertex => pure stages.vertex
    | .fragment => pure stages.fragment
  Action.require taken.isNone (.stageTwice name source.stage)
  let reflection ← Action.check source.reflectStage
  let stage : NativeStage := ⟨← shaderModule source name, source.entryPoint⟩
  let stages := { stages with reflections := stages.reflections ++ [reflection] }
  pure <| match source.stage with
    | .vertex => { stages with vertex := some stage }
    | _ => { stages with fragment := some stage }

/-- What a raster pipeline is made from. -/
structure RasterRequest where
  sources : List ShaderSource
  targets : List BufferFormat
  inputs : List VertexInput := []
  attributes : List VertexAttribute := []
  raster : RasterParams := {}

/-- A pipeline that draws with a vertex shader and perhaps a fragment shader. -/
def createRasterPipeline (request : RasterRequest) (name : String) :
    Action (Live Gpu) Pipeline := do
  if let some bad := request.targets.find? fun f => f.texture?.isNone then
    Action.refuse (.notRenderTarget bad)
  let stages ← request.sources.foldlM (RasterStages.add name) {}
  let vertex ← Action.orRefuse stages.vertex (.noVertexShader name)
  let binder := lockedBinder stages.reflections
  let (sets, layout) ← pipelineLayout binder name
  let buffers ← Action.checked (vertexBuffers request.inputs request.attributes)
  let id ← Live.request Platform.registerPipeline
  pure {
    id, name, binder, sets, layout
    kind := .raster {
      vertex
      fragment := stages.fragment
      buffers
      raster := request.raster
      targets := request.targets.length } }

end Gpu

end DeviceLayer
