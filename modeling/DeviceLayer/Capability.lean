import DeviceLayer.Named

/-!
# Device classes

What kind of device answers, and which optional interfaces it offers.

* `Capabilities.truncate` — the known part of a bit set; `truncate_truncate` says it is stable.
* `Capabilities.names` — the capabilities of a set, lowest bit first.
-/

namespace DeviceLayer

/-- Optional interfaces of a device. -/
inductive Capability where
  | compute
  | graphics
  | display
  | rayTracing
  | tensor
  | codec
  deriving DecidableEq

instance : Named Capability where
  all := [.compute, .graphics, .display, .rayTracing, .tensor, .codec]
  name
    | .compute => "COMPUTE"
    | .graphics => "GRAPHICS"
    | .display => "DISPLAY"
    | .rayTracing => "ACCEL_RAYTRACING"
    | .tensor => "ACCEL_TENSOR"
    | .codec => "ACCEL_CODEC"

/-- The bit that stands for a capability. -/
def Capability.bit : Capability → UInt32
  | .compute => 1
  | .graphics => 2
  | .display => 4
  | .rayTracing => 8
  | .tensor => 16
  | .codec => 32

/-- A set of capabilities as a bit set. -/
structure Capabilities where
  bits : UInt32
  deriving DecidableEq

namespace Capabilities

/-- Every bit that stands for a capability. -/
def knownBits : UInt32 := 63

def ofList (cs : List Capability) : Capabilities :=
  ⟨cs.foldl (fun bits c => bits ||| c.bit) 0⟩

def contains (s : Capabilities) (c : Capability) : Bool := s.bits &&& c.bit ≠ 0

/-- The set of a word's known bits. -/
def truncate (bits : UInt32) : Capabilities := ⟨bits &&& knownBits⟩

/-- The set of a word that has known bits only. -/
def ofBits? (bits : UInt32) : Option Capabilities :=
  if bits &&& knownBits = bits then some ⟨bits⟩ else none

/-- The capabilities of the set, lowest bit first. -/
def toList (s : Capabilities) : List Capability := Named.all.filter s.contains

def names (s : Capabilities) : List String := s.toList.map Named.name

theorem truncate_truncate (bits : UInt32) : truncate (truncate bits).bits = truncate bits := by
  simp only [truncate, Capabilities.mk.injEq]
  rw [UInt32.and_assoc, UInt32.and_self]

end Capabilities

/-- What a device is, as its callers tell devices apart. -/
inductive DeviceType where
  /-- Plain host memory. -/
  | host
  /-- A graphics processor that shares memory with the host. -/
  | gpuShared
  /-- A graphics processor with memory of its own. -/
  | gpu
  /-- A device behind a transport. -/
  | remote
  deriving DecidableEq

instance : Named DeviceType where
  all := [.host, .gpuShared, .gpu, .remote]
  name
    | .host => "Host"
    | .gpuShared => "GpuUma"
    | .gpu => "Gpu"
    | .remote => "Remote"

end DeviceLayer
