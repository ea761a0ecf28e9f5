import DeviceLayer.Binder
import DeviceLayer.Shader.Source

/-!
# Reflection

Which slots a shader expects. Reflection lists every bound global variable by set and binding
number; the buffers among them become slots of a binder.

* `Reflection.ofModule`, `ShaderSource.reflect` — the slots of a module.
* `Reflection.register` — enters the reflected buffers into a binder as slots that hold nothing
  and carry the smallest size the shader accepts.
* `lockedBinder` — the binder of a pipeline made of several stages.
-/

namespace DeviceLayer

/-- What a shader expects in a slot. -/
inductive ReflectedType where
  | storageBuffer (writable : Bool)
  | uniformBuffer
  | sampledImage
  | storageImage
  | sampler
  | other
  deriving DecidableEq

namespace ReflectedType

def text : ReflectedType → String
  | .storageBuffer true => "StorageBuffer \x7b writable: true \x7d"
  | .storageBuffer false => "StorageBuffer \x7b writable: false \x7d"
  | .uniformBuffer => "UniformBuffer"
  | .sampledImage => "SampledImage"
  | .storageImage => "StorageImage"
  | .sampler => "Sampler"
  | .other => "Other"

/-- The binding kind of a buffer; images and samplers have none. -/
def bufferKind? : ReflectedType → Option ResourceKind
  | .storageBuffer true => some .readWriteBuffer
  | .storageBuffer false => some .readOnlyStorageBuffer
  | .uniformBuffer => some .readOnlyBuffer
  | _ => none

end ReflectedType

/-- One slot that a shader expects; `minSize` is the smallest buffer range it accepts. -/
structure ReflectedBinding where
  set : UInt32
  binding : UInt32
  type : ReflectedType
  minSize : UInt64

/-- What binding needs to know of a module. -/
structure Reflection where
  bindings : List ReflectedBinding := []
  entryPoints : List (String × Stage) := []

namespace GlobalVariable

/-- What the variable expects in its slot. -/
def reflectedType (v : GlobalVariable) : ReflectedType :=
  match v.space with
  | .storage writable => .storageBuffer writable
  | .uniform => .uniformBuffer
  | .handle =>
    match v.type with
    | .sampledImage => .sampledImage
    | .storageImage => .storageImage
    | .sampler => .sampler
    | _ => .other
  | .privateSpace | .workgroup => .other

/-- The slot of a bound variable. -/
def reflect? (v : GlobalVariable) : Option ReflectedBinding :=
  v.place.map fun (set, binding) => ⟨set, binding, v.reflectedType, UInt64.ofNat v.type.size⟩

end GlobalVariable

/-- Slots are listed by set, then by binding number. -/
def ReflectedBinding.before (a b : ReflectedBinding) : Bool :=
  a.set < b.set || (a.set == b.set && a.binding ≤ b.binding)

namespace Reflection

/-- The slots and entry points of a module; slots at one place keep their order. -/
def ofModule (m : ShaderModule) : Reflection where
  bindings := (m.globals.filterMap GlobalVariable.reflect?).mergeSort ReflectedBinding.before
  entryPoints := m.entryPoints.filterMap fun e => e.stage.map fun stage => (e.name, stage)

def hasEntryPoint (r : Reflection) (name : String) (stage : Stage) : Bool :=
  r.entryPoints.any fun e => decide (e.1 = name ∧ e.2 = stage)

/-- Enters the reflected buffers into a binder, each holding nothing. -/
def register (r : Reflection) : Action Binder Unit :=
  r.bindings.forM fun b =>
    match b.type.bufferKind? with
    | some kind => Binder.bindSlot b.set b.binding kind .null b.minSize
    | none => pure ()

end Reflection

/-- The slots of a source's module, of which each has a size. -/
def ShaderSource.reflect (s : ShaderSource) : Except Fault Reflection := do
  let m ← s.parse.mapError Fault.device
  if m.boundHaveSize then pure (.ofModule m) else .error (.assertion .typeTooLarge)

/-- The slots of a source that has the entry point it is used for. -/
def ShaderSource.reflectStage (s : ShaderSource) : Except Fault Reflection := do
  let r ← s.reflect
  if r.hasEntryPoint s.entryPoint s.stage then pure r
  else .error (.device (.precondition (.noEntryPoint s.stage s.entryPoint)))

/-- The slots of all stages together, each holding nothing, with the layout locked. -/
def lockedBinder (stages : List Reflection) : Binder :=
  ((stages.forM Reflection.register).outcome {}).2.lock

end DeviceLayer
