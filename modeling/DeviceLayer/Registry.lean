import DeviceLayer.Gpu.Kernel
import DeviceLayer.Remote

/-!
# Devices and registries

A device is host memory, a graphics processor or a device behind a transport. A registry is a
bounded table that gives devices their ids: positions in order of registration. A device takes one
id in its life.

* `Registry.register` — enters a device, or leaves everything as it was.
* `Registry.find?` — the device with an id.
-/

namespace DeviceLayer

inductive Device where
  | host (device : Host)
  | gpu (device : Gpu)
  | remote (device : Remote)

namespace Device

/-- The id a registry gave the device. -/
def assigned : Device → Option DeviceId
  | .host h => h.assigned
  | .gpu g => g.assigned
  | .remote r => r.assigned

def id (d : Device) : DeviceId := d.assigned.getD .unassigned

/-- The device with an id of its own. -/
def withId (id : DeviceId) : Device → Device
  | .host h => .host { h with assigned := some id }
  | .gpu g => .gpu { g with assigned := some id }
  | .remote r => .remote { r with assigned := some id }

def type : Device → DeviceType
  | .host _ => .host
  | .gpu g => g.deviceType
  | .remote _ => .remote

def capabilities : Device → Capabilities
  | .host _ => .ofList []
  | .gpu _ => Gpu.capabilities
  | .remote _ => Remote.capabilities

/-- An upper bound on one allocation of a memory type. -/
def availableMemory (d : Device) (_ : MemoryType) : UInt64 :=
  match d with
  | .host _ => UInt64.ofNat maxObject
  | .gpu g => g.limits.maxBufferSize
  | .remote _ => Remote.availableMemory

/-- The streams of a device that runs kernels. -/
def streams? : Device → Option UInt32
  | .host _ => none
  | .gpu _ => some Gpu.streams
  | .remote r => if r.compute then some Remote.streams else none

end Device

/-- Finds a device for as long as it lives. -/
abbrev DeviceKey := Nat

/-- The devices that are alive. -/
abbrev Devices := SortedMap DeviceKey Device

/-- Devices a registry takes unless told otherwise. -/
def defaultRegistryCapacity : Nat := 256

/-- A bounded table of devices; a device's position is its id. -/
structure Registry where
  capacity : Nat := defaultRegistryCapacity
  members : List DeviceKey := []

namespace Registry

def size (r : Registry) : Nat := r.members.length

/-- The device with an id. -/
def find? (r : Registry) (id : DeviceId) : Option DeviceKey := r.members[id.index.toNat]?

/-- Enters a device at the next position. A full registry, or a device that has an id already,
changes nothing. -/
def register (r : Registry) (devices : Devices) (key : DeviceKey) :
    Except DeviceError (DeviceId × Registry × Devices) :=
  if r.capacity ≤ r.size then .error (.resourceLimit (.devices r.capacity))
  else match devices.get? key with
    | none => .error (.precondition (.unknownDevice .unassigned))
    | some device =>
      match device.assigned with
      | some id => .error (.precondition (.alreadyRegistered id))
      | none =>
        let id : DeviceId := ⟨UInt32.ofNat r.size⟩
        .ok (id, { r with members := r.members ++ [key] }, devices.insert key (device.withId id))

end Registry

end DeviceLayer
