import DeviceLayer.Action
import DeviceLayer.Capability
import DeviceLayer.Storage

/-!
# Host memory

Plain host memory as a device. An allocation is a block of bytes of exactly the requested size; a
mapping is the block itself. The device takes the handles it gave out and no others, so each
operation first looks at the owner of a handle.

* `Host.allocate`, `deallocate`, `map`, `mapRange`, `unmap`, `readRange`, `writeRange`.
* `Host.readRegion`, `writeRegion` — the host's own access to mapped bytes.
-/

namespace DeviceLayer

/-- Bytes of an allocation that are mapped for the host. -/
structure MappedRegion where
  allocId : UInt32
  offset : Nat
  length : Nat
  deriving DecidableEq

/-- A block of host memory. -/
structure HostBlock where
  bytes : Storage
  mapped : Bool := false

/-- Host memory as a device. -/
structure Host where
  /-- The id a registry gave; it never changes once given. -/
  assigned : Option DeviceId := none
  nextAlloc : UInt32 := 0
  blocks : SortedMap UInt32 HostBlock := ∅
  /-- The largest block that the host has to give. -/
  memory : Nat := 0x1000000000

namespace Host

def id (h : Host) : DeviceId := h.assigned.getD .unassigned

/-- Bounds a request for a block. -/
def checkBlock (h : Host) (size : UInt64) : Except DeviceError Unit :=
  if maxObject < size.toNat then .error (.resourceLimit (.hostBlock size .tooLarge))
  else if h.memory < size.toNat then .error (.resourceLimit (.hostBlock size .outOfMemory))
  else .ok ()

/-- Bounds the window of `length` bytes at `offset` by a block of `total` bytes. -/
def checkSpan (offset length total : Nat) : Except DeviceError Unit :=
  if offset + length ≤ total then .ok ()
  else .error (.precondition (.spanExceeds offset length total))

/-- Goes on only with a handle of this device. -/
def checkOwner (alloc : Allocation) : Action Host Unit := do
  let h ← get
  Action.require (alloc.device = h.id) (.foreignToHost alloc h.id)

/-- The block behind a handle of this device. -/
def block (alloc : Allocation) : Action Host HostBlock := do
  checkOwner alloc
  Action.orRefuse ((← get).blocks.get? alloc.id) (.unknownAllocation alloc)

/-- Replaces the block behind an id. -/
def putBlock (id : UInt32) (b : HostBlock) : Action Host Unit :=
  modify fun h => { h with blocks := h.blocks.insert id b }

/-- A new block of zero bytes. -/
def allocate (params : AllocParams) : Action Host Allocation := do
  let h ← get
  Action.checked (h.checkBlock params.size)
  let (id, next) ← Action.check (takeNumber h.nextAlloc)
  set { h with
    nextAlloc := next
    blocks := h.blocks.insert id ⟨.zeros params.size.toNat, false⟩ }
  pure ⟨h.id, id⟩

def deallocate (alloc : Allocation) : Action Host Unit := do
  discard <| block alloc
  modify fun h => { h with blocks := h.blocks.erase alloc.id }

/-- Maps the window of `size` bytes at a pointer. A block has one mapping at a time. -/
def mapRange (pointer : Pointer) (size : UInt64) : Action Host MappedRegion := do
  let alloc := pointer.allocation
  let b ← block alloc
  Action.require (!b.mapped) (.hostMapped alloc)
  let length := resolveSize pointer.offset size b.bytes.size
  Action.checked (checkSpan pointer.offset.toNat length b.bytes.size)
  putBlock alloc.id { b with mapped := true }
  pure ⟨alloc.id, pointer.offset.toNat, length⟩

/-- Maps a whole block. -/
def map (alloc : Allocation) : Action Host MappedRegion := mapRange (alloc.pointer 0) wholeSize

def unmap (alloc : Allocation) : Action Host Unit := do
  let b ← block alloc
  Action.require b.mapped (.hostNotMapped alloc)
  putBlock alloc.id { b with mapped := false }

def readRange (range : Range) : Action Host Storage := do
  let b ← block range.start.allocation
  Action.checked (checkSpan range.start.offset.toNat range.length.toNat b.bytes.size)
  pure (b.bytes.slice range.start.offset.toNat range.length.toNat)

def writeRange (dst : Pointer) (data : Storage) : Action Host Unit := do
  let b ← block dst.allocation
  Action.checked (checkSpan dst.offset.toNat data.size b.bytes.size)
  putBlock dst.allocId { b with bytes := b.bytes.splice dst.offset.toNat data }

/-- The bytes the host sees in a mapped region. -/
def readRegion (h : Host) (region : MappedRegion) : Storage :=
  match h.blocks.get? region.allocId with
  | some b => b.bytes.slice region.offset region.length
  | none => .zeros 0

/-- The host writes into a mapped region. -/
def writeRegion (h : Host) (region : MappedRegion) (offset : Nat) (data : Storage) : Host :=
  match h.blocks.get? region.allocId with
  | some b =>
    let b := { b with bytes := b.bytes.splice (region.offset + offset) data }
    { h with blocks := h.blocks.insert region.allocId b }
  | none => h

end Host

end DeviceLayer
