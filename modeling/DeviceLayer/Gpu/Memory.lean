import DeviceLayer.Gpu.State

/-!
# Memory of a graphics processor

Allocations, host access to them, and copies between them. Native copies move whole groups of four
bytes, so host access goes through the smallest aligned window around what it asks for:

* `readBuffer` copies the window to a staging buffer and takes the middle of it;
* `writeBuffer` writes through the queue, and patches the window first if it is not aligned.

Main definitions: `Gpu.checkedRange`, `allocate`, `mapRange`, `unmap`, `readRange`, `writeRange`,
`copyWithin`.
-/

namespace DeviceLayer

namespace Platform

/-- Bounds a native window by its buffer. -/
def checkBounds (b : Buffer) (first past : Nat) : Action Platform Unit := do
  let size := (← get).bufferSize b
  Action.require (past ≤ size && first ≤ past) (.nativeBounds first past size)

/-- Copies `size` bytes at `offset` back to the host. -/
def readBuffer (b : Buffer) (offset size : Nat) : Action Platform Storage := do
  if size = 0 then return .zeros 0
  let first := alignDown offset
  let past ← Action.check (addWords offset size >>= alignUp)
  checkBounds b first past
  let staging ← createBuffer b.connection .staging (past - first)
  let fence ← modifyGet (submit .readback [.copy b first staging 0 (past - first)])
  poll b.connection (some fence)
  return ((← get).contents.of staging).slice (offset - first) size

/-- Writes host bytes into a buffer, ahead of all later submissions. -/
def writeBuffer (b : Buffer) (offset : Nat) (data : Storage) : Action Platform Unit := do
  if data.size = 0 then return
  let first := alignDown offset
  let past ← Action.check (addWords offset data.size >>= alignUp)
  checkBounds b first past
  if first = offset && past = offset + data.size then
    modify (queueWrite b offset data)
  else
    let window ← readBuffer b first (past - first)
    modify (queueWrite b first (window.splice (offset - first) data))

end Platform

namespace Gpu

/-- The memory behind an allocation id. -/
def allocation (allocId : UInt32) : Action (Live Gpu) BufferAllocation := do
  Action.orRefuse ((← Live.self).buffers.get? allocId) (.unknownBuffer allocId)

/-- The memory behind a pointer into this device. -/
def resolve (pointer : Pointer) : Action (Live Gpu) BufferAllocation := do
  checkLocal pointer.device
  allocation pointer.allocId

/-- The native buffer behind a pointer, and the length of a request of `size` bytes there. -/
def checkedRange (pointer : Pointer) (size : UInt64) : Action (Live Gpu) (Buffer × Nat) := do
  let a ← resolve pointer
  let length := resolveSize pointer.offset size a.size
  Action.require (pointer.offset.toNat + length ≤ a.size)
    (.rangeExceeds length pointer.offset.toNat a.size)
  pure (a.buffer, length)

/-- Puts something behind the next allocation id. -/
def takeAllocId : Action (Live Gpu) UInt32 := do
  let (id, next) ← Action.check (takeNumber (← Live.self).nextAlloc)
  Live.update fun g => { g with nextAlloc := next }
  pure id

/-- Replaces the memory behind an allocation id. -/
def putBuffer (id : UInt32) (a : BufferAllocation) : Action (Live Gpu) Unit :=
  Live.update fun g => { g with buffers := g.buffers.insert id a }

/-- The size of the native buffer made for a request. -/
def nativeSize (size : UInt64) : Except Fault Nat := alignUp (max size.toNat copyAlignment)

def allocate (params : AllocParams) : Action (Live Gpu) Allocation := do
  let device ← registeredId
  let limit := (← Live.self).limits.maxBufferSize
  if limit < params.size then Action.exhausted (.bufferSize params.size limit)
  let size ← Action.check (nativeSize params.size)
  let buffer ← attempt (Platform.createBuffer · (.memory params.memoryType) size)
  let id ← takeAllocId
  putBuffer id ⟨buffer, params, none⟩
  pure ⟨device, id⟩

def deallocate (alloc : Allocation) : Action (Live Gpu) Unit := do
  checkLocal alloc.device
  discard <| allocation alloc.id
  Live.update fun g => { g with buffers := g.buffers.erase alloc.id }

/-- Maps the window of `size` bytes at a pointer: the host gets a copy of it. -/
def mapRange (pointer : Pointer) (size : UInt64) : Action (Live Gpu) MappedRegion := do
  let (buffer, length) ← checkedRange pointer size
  let a ← allocation pointer.allocId
  Action.require a.params.isHostVisible (.notMappable pointer.allocId)
  Action.require a.mapping.isNone (.alreadyMapped pointer.allocId)
  let shadow ← Live.onPlatform (Platform.readBuffer buffer pointer.offset.toNat length)
  putBuffer pointer.allocId { a with mapping := some ⟨pointer.offset.toNat, shadow⟩ }
  pure ⟨pointer.allocId, pointer.offset.toNat, length⟩

/-- Maps a whole allocation. -/
def map (alloc : Allocation) : Action (Live Gpu) MappedRegion :=
  mapRange (alloc.pointer 0) wholeSize

/-- Ends a mapping; what the host may write is copied back. The mapping is over also when the
copy fails. -/
def unmap (alloc : Allocation) : Action (Live Gpu) Unit := do
  let a ← resolve (alloc.pointer 0)
  let mapping ← Action.orRefuse a.mapping (.notMapped alloc.id)
  putBuffer alloc.id { a with mapping := none }
  if a.params.hostWrite then
    Live.onPlatform (Platform.writeBuffer a.buffer mapping.offset mapping.shadow)

def readRange (range : Range) : Action (Live Gpu) Storage := do
  let (buffer, length) ← checkedRange range.start range.length
  Live.onPlatform (Platform.readBuffer buffer range.start.offset.toNat length)

def writeRange (dst : Pointer) (data : Storage) : Action (Live Gpu) Unit := do
  let (buffer, _) ← checkedRange dst (UInt64.ofNat data.size)
  Live.onPlatform (Platform.writeBuffer buffer dst.offset.toNat data)

/-- Copies a range of this device by a native copy, if the range is here and all is aligned;
answers whether it did. -/
def copyWithin (dst : Pointer) (src : Range) : Action (Live Gpu) Bool := do
  checkLocal dst.device
  if src.device ≠ (← Live.self).id then return false
  let (srcBuffer, length) ← checkedRange src.start src.length
  let (dstBuffer, _) ← checkedRange dst (UInt64.ofNat length)
  let srcOffset := src.start.offset.toNat
  let dstOffset := dst.offset.toNat
  if isAligned srcOffset && isAligned dstOffset && isAligned length then
    discard <| Live.request
      (Platform.submit .transfer [.copy srcBuffer srcOffset dstBuffer dstOffset length])
    return true
  return false

/-- Waits for all queued work. -/
def waitIdle : Action (Live Gpu) Unit := wait none

/-- The bytes the host sees in a mapped region. -/
def readRegion (g : Gpu) (region : MappedRegion) : Storage :=
  match (g.buffers.get? region.allocId).bind (·.mapping) with
  | some mapping => mapping.shadow
  | none => .zeros 0

/-- The host writes into a mapped region, that is, into its copy. -/
def writeRegion (g : Gpu) (region : MappedRegion) (offset : Nat) (data : Storage) : Gpu :=
  match g.buffers.get? region.allocId with
  | some a =>
    let mapping := a.mapping.map fun m => { m with shadow := m.shadow.splice offset data }
    { g with buffers := g.buffers.insert region.allocId { a with mapping := mapping } }
  | none => g

/-- The native buffer and offset behind a vertex or index pointer. -/
def bufferSlice (pointer : Pointer) : Action (Live Gpu) (Buffer × Nat) := do
  let a ← resolve pointer
  Action.require (pointer.offset.toNat < a.size) (.offsetOutside pointer.offset.toNat a.size)
  pure (a.buffer, pointer.offset.toNat)

/-- The native buffer behind an allocation. -/
def nativeBuffer (alloc : Allocation) : Action (Live Gpu) Buffer := do
  return (← resolve (alloc.pointer 0)).buffer

end Gpu

end DeviceLayer
