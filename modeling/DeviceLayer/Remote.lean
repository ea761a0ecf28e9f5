import DeviceLayer.Capability
import DeviceLayer.Live

/-!
# Devices behind a transport

A device that is reached by messages: it leaves every call in the trace, answers any of them with
a failure when told to, and otherwise keeps plain bytes. Its kernels add their number to every
byte they are given, so that the trace and the bytes show what a launch did.
-/

namespace DeviceLayer

/-- A device behind a transport. -/
structure Remote where
  assigned : Option DeviceId := none
  nextAlloc : UInt32 := 0
  allocations : SortedMap UInt32 Storage := ∅
  /-- Whether the device runs kernels. -/
  compute : Bool := true
  /-- Devices whose ranges this one sees without a copy. -/
  aliasFrom : List DeviceId := []
  /-- Whether its aliases are allocations of their own. -/
  ownsAliases : Bool := false
  /-- Names of the calls that fail. -/
  failing : List String := []

namespace Remote

/-- The allocation id of every alias. -/
def aliasId : UInt32 := 900

/-- Streams of a device that runs kernels. -/
def streams : UInt32 := 2

/-- The largest allocation that the device claims to serve. -/
def availableMemory : UInt64 := 4096

def capabilities : Capabilities := .ofList [.compute, .tensor]

def id (r : Remote) : DeviceId := r.assigned.getD .unassigned

/-- Receives a call: leaves it in the trace, and fails if the call is one that fails. -/
def receive (call : RemoteCall) : Action (Live Remote) Unit := do
  let r ← Live.self
  Live.record (.remote r.id call)
  if r.failing.contains call.name then Action.backend (.remoteCall call.name)

/-- The bytes of an allocation, if the window of `length` bytes at the pointer is in it. -/
def window? (r : Remote) (start : Pointer) (length : Nat) : Except DeviceError Storage :=
  match r.allocations.get? start.allocId with
  | none => .error (.precondition (.remoteNoAllocation start.allocId))
  | some bytes =>
    if start.offset.toNat + length ≤ bytes.size then .ok bytes
    else .error (.precondition .remoteOutOfBounds)

def putBytes (id : UInt32) (bytes : Storage) (r : Remote) : Remote :=
  { r with allocations := r.allocations.insert id bytes }

def allocate (params : AllocParams) : Action (Live Remote) Allocation := do
  receive (.allocate params.memoryType params.size)
  Action.assert (params.size.toNat ≤ maxObject) .capacityOverflow
  let r ← Live.self
  let (id, next) ← Action.check (takeNumber r.nextAlloc)
  Live.update fun r => putBytes id (.zeros params.size.toNat) { r with nextAlloc := next }
  pure ⟨r.id, id⟩

def deallocate (alloc : Allocation) : Action (Live Remote) Unit := do
  receive (.deallocate alloc.id)
  Live.update fun r => { r with allocations := r.allocations.erase alloc.id }

def readRange (range : Range) : Action (Live Remote) Storage := do
  receive (.read range)
  let bytes ← Action.checked ((← Live.self).window? range.start range.length.toNat)
  pure (bytes.slice range.start.offset.toNat range.length.toNat)

def writeRange (dst : Pointer) (data : Storage) : Action (Live Remote) Unit := do
  receive (.write dst data)
  let bytes ← Action.checked ((← Live.self).window? dst data.size)
  Live.update (putBytes dst.allocId (bytes.splice dst.offset.toNat data))

/-- A pointer to a range of a device whose memory this one shares. -/
def localAlias? (r : Remote) (other : Range) : Option Pointer :=
  if r.aliasFrom.contains other.device then some ⟨r.id, aliasId, other.start.offset⟩ else none

/-- Whether a pointer is an alias that has to be released. -/
def isAlias (r : Remote) (pointer : Pointer) : Bool :=
  r.ownsAliases && pointer.allocId == aliasId

/-- Adds a number to every byte of a range that is here; other ranges are passed over. -/
def addToRange (r : Remote) (amount : UInt8) (range : Range) : Remote :=
  match r.window? range.start range.length.toNat with
  | .error _ => r
  | .ok bytes =>
    let window := bytes.slice range.start.offset.toNat range.length.toNat
    putBytes range.start.allocId
      (bytes.splice range.start.offset.toNat (window.map (· + amount))) r

/-- Runs a kernel: it adds its number to every byte of its ranges, in node order. -/
def launch (stream kernel : UInt32) (mapping : Mapping) : Action (Live Remote) Unit := do
  receive (.launch stream kernel mapping)
  Live.update fun r => mapping.toList.foldl (fun r e => r.addToRange kernel.toUInt8 e.2) r

end Remote

end DeviceLayer
