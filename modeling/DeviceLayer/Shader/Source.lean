import DeviceLayer.Action
import DeviceLayer.Shader.Module

/-!
# Shader sources

A source is a shader text or binary, tagged with the stage and the entry point it is used for.

* `instructionDefect` — whether the instructions of a binary are all there.
* `ShaderSource.parse` — the module of a source, or what is wrong with it.
-/

namespace DeviceLayer

/-- The form a shader is given in. -/
inductive ShaderForm where
  | text
  | binary
  deriving DecidableEq

/-- The short name of a form. -/
def ShaderForm.name : ShaderForm → String
  | .text => "wgsl"
  | .binary => "spirv"

/-- A shader: a module in one of the two forms, or bytes that claim to be one. -/
inductive ShaderCode where
  | module (form : ShaderForm) (module : ShaderModule)
  /-- Bytes that are not the text of a module. -/
  | textBytes (bytes : Bytes)
  /-- Bytes of a binary module that declares nothing, or of a part of one. -/
  | binaryBytes (bytes : Bytes)

/-- A shader with the stage and entry point to use. -/
structure ShaderSource where
  code : ShaderCode
  stage : Stage
  entryPoint : String

def ShaderCode.form : ShaderCode → ShaderForm
  | .module form _ => form
  | .textBytes _ => .text
  | .binaryBytes _ => .binary

/-- The word every binary module begins with. -/
def binaryMagic : UInt32 := 0x07230203

/-- Words before the first instruction of a binary module. -/
def binaryHeaderWords : Nat := 5

/-- The defect in the layout of a list of instructions. The upper half of an instruction's first
word counts its words, that one included. -/
def instructionDefect : List UInt32 → Option BinaryDefect
  | [] => none
  | first :: rest =>
    let count := (first >>> 16).toNat
    if count = 0 then some .invalidWordCount
    else if rest.length + 1 < count then some .incompleteData
    else instructionDefect (rest.drop (count - 1))
  termination_by words => words.length
  decreasing_by simp only [List.length_drop, List.length_cons]; omega

/-- The module of a binary whose instructions define nothing, or what is wrong with its words. -/
def parseBinary (bytes : Bytes) : Except BinaryDefect ShaderModule :=
  if bytes.length % 4 ≠ 0 then .error .incompleteData
  else match bytes.words with
    | [] => .error .incompleteData
    | magic :: rest =>
      if magic ≠ binaryMagic then .error .invalidHeader
      else if rest.length + 1 < binaryHeaderWords then .error .incompleteData
      else match instructionDefect (rest.drop (binaryHeaderWords - 1)) with
        | some defect => .error defect
        | none => .ok {}

/-- The module of a source, or the rule that its bytes break. -/
def ShaderSource.parse (s : ShaderSource) : Except DeviceError ShaderModule :=
  match s.code with
  | .module .text m =>
    if m.fitsText && m.laysOut then .ok m else .error (.precondition .invalidText)
  | .module .binary m => .ok m
  | .textBytes bytes =>
    match Utf8.check bytes with
    | some defect => .error (.precondition (.sourceNotUtf8 defect))
    | none => .error (.precondition .invalidText)
  | .binaryBytes bytes =>
    match parseBinary bytes with
    | .ok m => .ok m
    | .error defect => .error (.precondition (.invalidBinary defect))

end DeviceLayer
