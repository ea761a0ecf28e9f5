import DeviceLayer.Raster

/-!
# Shader modules

The part of a parsed shader that binding looks at: the types, address spaces and places of its
global variables, and its entry points.

* `ShaderType.size`, `ShaderType.align` — how the types lie in memory.
* `ShaderType.tooLarge` — the types that have no size, being larger than any may be.
* `ShaderModule.fitsText`, `ShaderModule.laysOut` — the modules that can be read from a text.
-/

namespace DeviceLayer

/-- Types of global variables. -/
inductive ShaderType where
  /-- A 32-bit scalar. -/
  | scalar
  /-- A vector of two to four scalars. -/
  | vector (components : Nat)
  /-- A square matrix of scalars, stored by columns. -/
  | matrix (columns : Nat)
  | array (element : ShaderType) (count : Nat)
  /-- An array whose length is fixed when it is bound. -/
  | runtimeArray (element : ShaderType)
  | struct (members : List ShaderType)
  | sampledImage
  | storageImage
  | sampler
  /-- An array of resources. -/
  | bindingArray

/-- `n` rounded up to a multiple of `align`. -/
def roundUp (align n : Nat) : Nat := (n + align - 1) / align * align

theorem dvd_roundUp (align n : Nat) : align ∣ roundUp align n := Nat.dvd_mul_left _ _

theorem le_roundUp {align : Nat} (h : 0 < align) (n : Nat) : n ≤ roundUp align n := by
  have hd := Nat.div_add_mod (n + align - 1) align
  have hm := Nat.mod_lt (n + align - 1) h
  rw [Nat.mul_comm] at hd
  unfold roundUp
  omega

namespace ShaderType

/-- Alignment of a vector: that of the next power of two of components. -/
def vectorAlign (components : Nat) : Nat := if components ≤ 2 then 8 else 16

mutual

/-- The multiple of bytes that a value begins at. -/
def align : ShaderType → Nat
  | .scalar => 4
  | .vector n => vectorAlign n
  | .matrix n => vectorAlign n
  | .array element _ => element.align
  | .runtimeArray element => element.align
  | .struct members => alignAll members
  | _ => 1

/-- The largest alignment of a list of members. -/
def alignAll : List ShaderType → Nat
  | [] => 1
  | t :: rest => max t.align (alignAll rest)

end

mutual

/-- Bytes a value takes, a runtime-sized array counting one element. -/
def size : ShaderType → Nat
  | .scalar => 4
  | .vector n => 4 * n
  | .matrix n => n * vectorAlign n
  | .array element count => count * roundUp element.align element.size
  | .runtimeArray element => roundUp element.align element.size
  | .struct members => roundUp (alignAll members) (sizeAfter 0 members)
  | _ => 0

/-- Where a list of members ends that begins after `offset` bytes, each member at its alignment. -/
def sizeAfter (offset : Nat) : List ShaderType → Nat
  | [] => offset
  | t :: rest => sizeAfter (roundUp t.align offset + t.size) rest

end

/-- The most bytes that a type may take, and the most elements that an array may have. -/
def maxTypeSize : Nat := 0x40000000

/-- Whether a type is larger than any may be. The elements of an array are counted also if they
take no bytes. -/
def tooLarge : ShaderType → Bool
  | .array element count => maxTypeSize < count || maxTypeSize < (array element count).size
  | t => maxTypeSize < t.size

theorem size_le_maxTypeSize {t : ShaderType} (h : t.tooLarge = false) : t.size ≤ maxTypeSize := by
  cases t <;> simp_all [tooLarge]

mutual

/-- Whether neither the type nor a part of it is too large. -/
def fits : ShaderType → Bool
  | .array element count => element.fits && !(array element count).tooLarge
  | .runtimeArray element => element.fits
  | .struct members => allFit members && !(struct members).tooLarge
  | _ => true

def allFit : List ShaderType → Bool
  | [] => true
  | t :: rest => t.fits && allFit rest

end

/-- What the arrays of arrays of a type hold in the end. -/
def innermost : ShaderType → ShaderType
  | .array element _ => element.innermost
  | .runtimeArray element => element.innermost
  | t => t

/-- The arrays down to the innermost type, each after those that it is made of. -/
def arrays : ShaderType → List ShaderType
  | .array element count => element.arrays ++ [.array element count]
  | .runtimeArray element => element.arrays ++ [.runtimeArray element]
  | _ => []

mutual

/-- Whether every array length is one that text can spell. -/
def fitsText : ShaderType → Bool
  | .array element count => 0 < count && count < 2 ^ 31 && element.fitsText
  | .runtimeArray element => element.fitsText
  | .struct members => allFitText members
  | _ => true

def allFitText : List ShaderType → Bool
  | [] => true
  | t :: rest => t.fitsText && allFitText rest

end

end ShaderType

/-- Where a global variable lives. -/
inductive AddressSpace where
  | storage (writable : Bool)
  | uniform
  | handle
  | privateSpace
  | workgroup
  deriving DecidableEq

/-- A global variable; `place` is its set and binding number. -/
structure GlobalVariable where
  place : Option (UInt32 × UInt32)
  space : AddressSpace
  type : ShaderType

/-- An entry point; one of a stage that pipelines do not use has no stage here. -/
structure EntryPoint where
  name : String
  stage : Option Stage

/-- A parsed shader. -/
structure ShaderModule where
  globals : List GlobalVariable := []
  entryPoints : List EntryPoint := []

namespace ShaderModule

/-- Numbers in text are signed 32-bit literals, arrays have a length, and no two entry points have
one name. -/
def fitsText (m : ShaderModule) : Bool :=
  (m.globals.all fun v =>
    v.type.fitsText && v.place.all fun p => decide (p.1 < 0x80000000 ∧ p.2 < 0x80000000)) &&
    decide (m.entryPoints.map (·.name)).Nodup

/-- Whether the types of a text can be laid out one after another: first the structs with all their
parts, then the arrays of the variables. To lay out an array or a member takes the sizes of all
types before it, and a struct takes its own as well. So nothing is too large, unless it is the last
array. -/
def laysOut (m : ShaderModule) : Bool :=
  (m.globals.all fun v => v.type.innermost.fits) &&
    (m.globals.flatMap (·.type.arrays)).dropLast.all (!·.tooLarge)

/-- Whether every bound variable is of a type that has a size. -/
def boundHaveSize (m : ShaderModule) : Bool :=
  m.globals.all fun v => v.place.isNone || !v.type.tooLarge

end ShaderModule

end DeviceLayer
