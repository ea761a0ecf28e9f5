import DeviceLayer.Named
import DeviceLayer.SortedMap

/-!
# Memory handles

What callers hold of a device's memory: the id a registry gave the device, allocations on it,
pointers into an allocation and ranges behind a pointer, together with the parameters of an
allocation.

* `Pointer.null` — marks a slot that is not bound; it carries the id of no device.
* `resolveSize` — the length a request means, `wholeSize` standing for the rest.
-/

namespace DeviceLayer

/-- Largest value of a 64-bit word. -/
def maxWord : Nat := UInt64.size - 1

/-- No object in memory is larger. -/
def maxObject : Nat := UInt64.size / 2 - 1

/-- The size that stands for the rest of an allocation. -/
def wholeSize : UInt64 := 0xFFFFFFFFFFFFFFFF

/-- The position a registry gave a device. -/
structure DeviceId where
  index : UInt32
  deriving DecidableEq

namespace DeviceId

/-- Host memory sits behind the first id of a registry that has a host device. -/
def host : DeviceId := ⟨0⟩

/-- What an unregistered device answers when asked for its id. -/
def unassigned : DeviceId := ⟨0xFFFFFFFF⟩

def text (d : DeviceId) : String := s!"DeviceId({d.index})"

def order (a b : DeviceId) : Ordering := compare a.index b.index

end DeviceId

/-- A block of memory on one device. -/
structure Allocation where
  device : DeviceId
  id : UInt32
  deriving DecidableEq

/-- A byte position in an allocation. -/
structure Pointer where
  device : DeviceId
  allocId : UInt32
  offset : UInt64
  deriving DecidableEq

/-- A pointer and the number of bytes behind it. -/
structure Range where
  start : Pointer
  length : UInt64
  deriving DecidableEq

namespace Allocation

def pointer (a : Allocation) (offset : UInt64) : Pointer := ⟨a.device, a.id, offset⟩

/-- The first `length` bytes of the allocation. -/
def range (a : Allocation) (length : UInt64) : Range := ⟨a.pointer 0, length⟩

def text (a : Allocation) : String :=
  "DeviceAllocation \x7b device: " ++ a.device.text ++ ", alloc_id: " ++ toString a.id ++ " \x7d"

/-- Allocations are ordered by device, then by id. -/
def order (a b : Allocation) : Ordering := (a.device.order b.device).then (compare a.id b.id)

end Allocation

namespace Pointer

/-- The pointer of a slot that holds nothing. -/
def null : Pointer := ⟨.unassigned, 0xFFFFFFFF, 0⟩

def isNull (p : Pointer) : Bool := p.device = .unassigned

def allocation (p : Pointer) : Allocation := ⟨p.device, p.allocId⟩

/-- The pointer `bytes` further on, unless its offset leaves the word. -/
def add? (p : Pointer) (bytes : UInt64) : Option Pointer :=
  if p.offset.toNat + bytes.toNat ≤ maxWord then some { p with offset := p.offset + bytes }
  else none

/-- Pointers are ordered by allocation, then by offset. -/
def order (a b : Pointer) : Ordering :=
  (a.allocation.order b.allocation).then (compare a.offset b.offset)

end Pointer

/-- The device a range lives on. -/
def Range.device (r : Range) : DeviceId := r.start.device

/-- Where an allocation is placed, by the access the host asks for. -/
inductive MemoryType where
  | device
  | hostShared
  | hostToDevice
  | deviceToHost
  deriving DecidableEq

instance : Named MemoryType where
  all := [.device, .hostShared, .hostToDevice, .deviceToHost]
  name
    | .device => "Device"
    | .hostShared => "HostShared"
    | .hostToDevice => "HostToDevice"
    | .deviceToHost => "DeviceToHost"

/-- What a caller asks of an allocation. -/
structure AllocParams where
  size : UInt64
  hostRead : Bool
  hostWrite : Bool
  deriving DecidableEq

namespace AllocParams

def deviceLocal (size : UInt64) : AllocParams := ⟨size, false, false⟩

def hostVisible (size : UInt64) : AllocParams := ⟨size, true, true⟩

def memoryType (p : AllocParams) : MemoryType :=
  match p.hostRead, p.hostWrite with
  | true, true => .hostShared
  | true, false => .deviceToHost
  | false, true => .hostToDevice
  | false, false => .device

def isHostVisible (p : AllocParams) : Bool := p.hostRead || p.hostWrite

end AllocParams

/-- The number of bytes a request of `size` at `offset` means in an allocation of `total` bytes. -/
def resolveSize (offset size : UInt64) (total : Nat) : Nat :=
  if size = wholeSize then total - offset.toNat else size.toNat

theorem resolveSize_of_ne {offset size : UInt64} {total : Nat} (h : size ≠ wholeSize) :
    resolveSize offset size total = size.toNat := if_neg h

theorem resolveSize_wholeSize (offset : UInt64) (total : Nat) :
    resolveSize offset wholeSize total = total - offset.toNat := if_pos rfl

/-- A whole-size request inside the allocation ends where the allocation ends. -/
theorem add_resolveSize_wholeSize {offset : UInt64} {total : Nat} (h : offset.toNat ≤ total) :
    offset.toNat + resolveSize offset wholeSize total = total := by
  rw [resolveSize_wholeSize]; omega

/-- Which node of a kernel sees which range, in node order. -/
abbrev Mapping := SortedMap Int Range

end DeviceLayer
