import DeviceLayer.Memory

/-!
# Resource vocabulary

Small words that bindings, caches and command lists share: what a binding slot holds, how indices
are stored, and handles to cached objects.
-/

namespace DeviceLayer

/-- What a binding slot holds. -/
inductive ResourceKind where
  /-- A storage buffer that the shader may write. -/
  | readWriteBuffer
  /-- A storage buffer that the shader only reads. -/
  | readOnlyStorageBuffer
  /-- A uniform buffer. -/
  | readOnlyBuffer
  deriving DecidableEq

instance : Named ResourceKind where
  all := [.readWriteBuffer, .readOnlyStorageBuffer, .readOnlyBuffer]
  name
    | .readWriteBuffer => "ReadWriteBuffer"
    | .readOnlyStorageBuffer => "ReadOnlyStorageBuffer"
    | .readOnlyBuffer => "ReadOnlyBuffer"

/-- Width of the elements of an index buffer. -/
inductive IndexFormat where
  | u16
  | u32
  deriving DecidableEq

instance : Named IndexFormat where
  all := [.u16, .u32]
  name
    | .u16 => "U16"
    | .u32 => "U32"

def IndexFormat.nativeName : IndexFormat → String
  | .u16 => "Uint16"
  | .u32 => "Uint32"

/-- The position of an object in its cache. -/
structure CacheHandle where
  index : UInt32
  deriving DecidableEq

def CacheHandle.text (h : CacheHandle) : String := s!"CacheHandle({h.index})"

instance : Ranked CacheHandle where
  rank h := Int.ofNat h.index.toNat
  rank_inj {a b} h := by
    cases a; cases b
    exact congrArg CacheHandle.mk (UInt32.toNat_inj.1 (Int.ofNat.inj h))

end DeviceLayer
