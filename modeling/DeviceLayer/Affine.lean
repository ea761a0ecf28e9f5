import DeviceLayer.Gpu.Pipeline
import DeviceLayer.World

/-!
# The affine demonstration

A whole round trip over host memory: a kernel that computes `2x + 1` for every float is registered
with a graphics processor and launched over a range of the host device. The launch protocol copies
the floats to the processor and back, and the results are compared with `2x + 1` computed here.

* `affineImage` — the value every float should become.
* `World.runAffine` — the round trip; it fails when a float came back with another value.
-/

namespace DeviceLayer

/-- The float nearest to a position. -/
def floatInput (i : Nat) : Float32 := (UInt64.ofNat i).toFloat32

/-- The floats `0, 1, …, count - 1`, each spelled by the four bytes of its bits. -/
def floatRamp (count : Nat) : Storage := .ofWords count fun i => (floatInput i).toBits

/-- The float at a position of an array of bytes; zero past its end. -/
def floatAt (cells : ByteArray) (i : Nat) : Float32 :=
  if h : 4 * i + 3 < cells.size then
    .ofBits (Bytes.word cells[4 * i] cells[4 * i + 1] cells[4 * i + 2] cells[4 * i + 3])
  else 0

/-- What the kernel makes of a float. -/
def affineImage (x : Float32) : Float32 := x * 2 + 1

/-- How many of `count` floats are not the images of `0, 1, …, count - 1`. -/
def affineMismatches (output : ByteArray) (count : Nat) : Nat :=
  count.fold (fun i _ wrong =>
    if affineImage (floatInput i) != floatAt output i then wrong + 1 else wrong) 0

namespace World

/-- The kernel number of the demonstration. -/
def affineKernel : UInt32 := 0

/-- Invocations of one workgroup of the kernel. -/
def affineGroupSize : Nat := 64

/-- The shader: one writable array of floats. -/
def affineShader : ShaderSource where
  code := .module .text {
    globals := [⟨some (0, 0), .storage true, .runtimeArray .scalar⟩]
    entryPoints := [⟨"main", some .compute⟩] }
  stage := .compute
  entryPoint := "main"

/-- Registers the kernel for `count` floats. -/
def registerAffine (count : Nat) : Action (Live Gpu) Unit := do
  let pipeline ← Gpu.createComputePipeline affineShader "affine"
  let groups := UInt32.ofNat ((count + affineGroupSize - 1) / affineGroupSize)
  Gpu.registerKernel affineKernel
    { pipeline, arguments := [⟨0, 0, 0⟩], groups := (groups, 1, 1) }

/-- Computes `2x + 1` over `count` floats of the host device on the graphics processor `key`. -/
def runAffine (key : DeviceKey) (count : Nat) : Action World Unit := do
  onGpu key (registerAffine count)
  let host ← find .host
  let bytes ← Action.check (mulWords count 4)
  let size := UInt64.ofNat bytes
  let alloc ← allocate host (.hostVisible size)
  writeRange host (alloc.pointer 0) (floatRamp count)
  launch key 0 affineKernel (.ofList [(0, alloc.range size)])
  waitStream key 0
  let output := (← readRange host (alloc.range size)).toByteArray
  let wrong := affineMismatches output count
  if wrong ≠ 0 then throw (.setup (.valuesDiffer wrong count))
  deallocate host alloc

end World

end DeviceLayer
