import DeviceLayer.Proofs.Calls

/-!
# Plain memory

What memory of a device looks like to its callers: every allocation is an array of just the bytes
that were asked for, and mapping a window of it gives the host a copy. Nothing here is aligned,
padded, copied to a staging buffer or waited for. Of native buffers there is only this to see, that
the graphics library makes them of whole groups of bytes, and none that ends past the limit.

* `Gpu.paddedSize` — the size of the native buffer of an allocation.
* `Block`, `Store` — an allocation, and all of them.
* `Store.granted` — whether the graphics library has a buffer for an allocation.
* `Store.window` — the block that a request stays inside of; all other requests are refused.
* `MemoryCall.onStore` — the calls of a client, as plain memory takes them.
* `MemoryCall.answers` — what a client learns from a list of calls.
-/

namespace DeviceLayer

/-! ## The size of native buffers -/

namespace Gpu

def paddedSize (size : UInt64) : Nat := (max size.toNat 4 + 3) / 4 * 4

theorem nativeSize_eq (size : UInt64) :
    nativeSize size =
      if paddedSize size ≤ maxWord then .ok (paddedSize size)
      else .error (.assertion (.overflow .multiply)) := rfl

theorem mod_paddedSize (size : UInt64) : paddedSize size % 4 = 0 := Nat.mul_mod_left _ _

theorem max_le_paddedSize (size : UInt64) : max size.toNat 4 ≤ paddedSize size := by
  unfold paddedSize
  omega

/-- What is rounded up lies within a limit if it lies within the whole groups of the limit. -/
theorem paddedSize_le_iff {size : UInt64} {limit : Nat} :
    paddedSize size ≤ limit ↔ max size.toNat 4 ≤ limit / 4 * 4 := by
  unfold paddedSize
  omega

/-- Within limits that fit the size is a word. -/
theorem nativeSize_of_le {limits : Limits} (fit : limits.Fit) {size : UInt64}
    (within : size ≤ limits.maxBufferSize) : nativeSize size = .ok (paddedSize size) := by
  have within := UInt64.le_iff_toNat_le.1 within
  rw [nativeSize_eq, if_pos]
  simp only [Limits.Fit, paddedSize, copyAlignment, maxWord, UInt64.size] at *
  omega

end Gpu

/-! ## Allocations -/

/-- A window that the host has mapped, and its copy of the bytes there. -/
structure HostCopy where
  offset : Nat
  bytes : Bytes

/-- An allocation: the bytes that were asked for, and what of them the host has mapped. -/
structure Block where
  params : AllocParams
  bytes : Bytes
  copy : Option HostCopy := none

/-- The number of bytes that a request of `size` at an offset means: the whole size stands for the
rest. -/
def Block.requested (b : Block) (offset size : UInt64) : Nat :=
  if size = wholeSize then b.bytes.length - offset.toNat else size.toNat

structure Store where
  device : DeviceId
  /-- The largest allocation. -/
  limit : UInt64
  next : UInt32 := 0
  blocks : SortedMap UInt32 Block := ∅

namespace Store

def block (p : Pointer) : Action Store Block := do
  let s ← get
  Action.require (p.device = s.device) (.foreignPointer p.device s.device)
  Action.orRefuse (s.blocks.get? p.allocId) (.unknownBuffer p.allocId)

/-- The block behind a pointer, if a request of that length stays inside it. -/
def window (p : Pointer) (length : Block → Nat) : Action Store Block := do
  let b ← block p
  Action.require (p.offset.toNat + length b ≤ b.bytes.length)
    (.rangeExceeds (length b) p.offset.toNat b.bytes.length)
  pure b

def insert (s : Store) (id : UInt32) (b : Block) : Store :=
  { s with blocks := s.blocks.insert id b }

theorem insert_insert (s : Store) (id : UInt32) (b b' : Block) :
    (s.insert id b).insert id b' = s.insert id b' :=
  congrArg (fun blocks => { s with blocks }) (s.blocks.insert_insert id b b')

theorem insert_eq_self {s : Store} {id : UInt32} {b : Block} (h : s.blocks.get? id = some b) :
    s.insert id b = s :=
  congrArg (fun blocks => { s with blocks }) (SortedMap.insert_eq_self h)

def put (id : UInt32) (b : Block) : Action Store Unit := modify (·.insert id b)

/-- The graphics library has a buffer for an allocation, as long as its last group is within the
limit. -/
def granted (s : Store) (params : AllocParams) : Except Fault Unit :=
  if Gpu.paddedSize params.size ≤ s.limit.toNat then .ok ()
  else .error (.native (.buffer (BufferPurpose.memory params.memoryType).label
    (Gpu.paddedSize params.size) s.limit))

def allocate (params : AllocParams) : Action Store Allocation := do
  let s ← get
  Action.require (s.device ≠ .unassigned) .notRegistered
  if s.limit < params.size then Action.exhausted (.bufferSize params.size s.limit)
  Action.check (s.granted params)
  let (id, next) ← Action.check (takeNumber s.next)
  modify fun s => { s with next }
  put id { params, bytes := .zeros params.size.toNat }
  pure ⟨s.device, id⟩

def deallocate (alloc : Allocation) : Action Store Unit := do
  let _ ← block (alloc.pointer 0)
  modify fun s => { s with blocks := s.blocks.erase alloc.id }

/-- Memory of the device alone is not mapped, and nothing is mapped twice. -/
def mapRange (p : Pointer) (size : UInt64) : Action Store MappedRegion := do
  let b ← window p (·.requested p.offset size)
  let offset := p.offset.toNat
  let length := b.requested p.offset size
  Action.require b.params.isHostVisible (.notMappable p.allocId)
  Action.require b.copy.isNone (.alreadyMapped p.allocId)
  put p.allocId { b with copy := some ⟨offset, b.bytes.slice offset length⟩ }
  pure ⟨p.allocId, offset, length⟩

/-- What the host may write replaces the window that was mapped; else nothing changes. -/
def unmap (alloc : Allocation) : Action Store Unit := do
  let b ← block (alloc.pointer 0)
  let copy ← Action.orRefuse b.copy (.notMapped alloc.id)
  let bytes := if b.params.hostWrite then b.bytes.splice copy.offset copy.bytes else b.bytes
  put alloc.id { b with bytes, copy := none }

def read (range : Range) : Action Store Bytes := do
  let offset := range.start.offset
  let b ← window range.start (·.requested offset range.length)
  pure (b.bytes.slice offset.toNat (b.requested offset range.length))

def write (dst : Pointer) (data : Bytes) : Action Store Unit := do
  let b ← window dst fun _ => data.length
  put dst.allocId { b with bytes := b.bytes.splice dst.offset.toNat data }

/-- The host's copy behind a region, if that is mapped at present. -/
def copy? (s : Store) (region : MappedRegion) : Option (Block × HostCopy) := do
  let b ← s.blocks.get? region.allocId
  let copy ← b.copy
  if copy.offset = region.offset ∧ copy.bytes.length = region.length then some (b, copy) else none

end Store

/-- The call as plain memory takes it. -/
def MemoryCall.onStore : MemoryCall → Action Store MemoryAnswer
  | .allocate params => .allocation <$> Store.allocate params
  | .deallocate alloc => do
    Store.deallocate alloc
    pure .done
  | .map alloc => .region <$> Store.mapRange (alloc.pointer 0) wholeSize
  | .mapRange start size => .region <$> Store.mapRange start size
  | .unmap alloc => do
    Store.unmap alloc
    pure .done
  | .read range => .bytes <$> Store.read range
  | .write dst data => do
    Store.write dst data.val.toBytes
    pure .done
  | .readRegion region => do
    match (← get).copy? region with
    | some (_, copy) => pure (.bytes copy.bytes)
    | none => pure .outside
  | .writeRegion region offset data => do
    match (← get).copy? region with
    | some (b, copy) =>
      if offset + data.val.size ≤ region.length then
        let bytes := copy.bytes.splice offset data.val.toBytes
        Store.put region.allocId { b with copy := some { copy with bytes } }
        pure .done
      else pure .outside
    | none => pure .outside

/-- What a client learns from calls made one after the other; a call that fails ends nothing. -/
def MemoryCall.answers {σ : Type} (take : MemoryCall → Action σ MemoryAnswer) :
    List MemoryCall → σ → List (Except Fault MemoryAnswer)
  | [], _ => []
  | call :: calls, s => ((take call).outcome s).1 :: answers take calls ((take call).outcome s).2

end DeviceLayer
