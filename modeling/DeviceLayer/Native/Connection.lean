import DeviceLayer.Action
import DeviceLayer.Resource

/-!
# Connections

A device of the graphics library, as the device layer knows it: a connection to the library, and
what was promised over it when it was opened.

* `Limits` — what a connection promises.
* `Adapter.serves` — what an adapter lets be promised.
* `Connection` — one of the connections, with its limits.
-/

namespace DeviceLayer

/-- What a device promised its callers it can do. -/
structure Limits where
  maxBufferSize : UInt64 := 268435456
  maxTextureDimension : UInt32 := 8192
  uniformAlignment : UInt32 := 256
  storageAlignment : UInt32 := 256
  deriving DecidableEq

namespace Limits

/-- The alignment that the offset of a bound buffer must have. -/
def offsetAlignment (l : Limits) : ResourceKind → UInt32
  | .readOnlyBuffer => l.uniformAlignment
  | .readWriteBuffer | .readOnlyStorageBuffer => l.storageAlignment

/-- No buffer within the limits ends in the last group of bytes of the word. -/
def Fit (limits : Limits) : Prop :=
  limits.maxBufferSize.toNat + copyAlignment ≤ maxWord + 1

instance (limits : Limits) : Decidable limits.Fit := inferInstanceAs (Decidable (_ ≤ _))

end Limits

/-- An adapter, with the limits that it can serve at best. -/
structure Adapter where
  best : Limits
  fit : best.Fit

namespace Adapter

/-- An adapter without hardware behind it. -/
def noop : Adapter where
  best := {
    maxBufferSize := 0x7FFFFFFF
    maxTextureDimension := 0x7FFFFFFF
    uniformAlignment := 32
    storageAlignment := 32 }
  fit := by decide

/-- Whether the adapter can serve what a device is to promise. -/
def serves (a : Adapter) (limits : Limits) : Bool :=
  limits.maxBufferSize ≤ a.best.maxBufferSize &&
    limits.maxTextureDimension ≤ a.best.maxTextureDimension &&
    a.best.uniformAlignment ≤ limits.uniformAlignment &&
    a.best.storageAlignment ≤ limits.storageAlignment

theorem fit_of_serves {a : Adapter} {limits : Limits} (served : a.serves limits = true) :
    limits.Fit := by
  simp only [serves, Bool.and_eq_true, decide_eq_true_eq] at served
  have within := UInt64.le_iff_toNat_le.1 served.1.1.1
  exact Nat.le_trans (Nat.add_le_add_right within _) a.fit

end Adapter

/-- A connection to the graphics library, and what was promised over it. -/
structure Connection where
  index : Nat
  limits : Limits
  deriving DecidableEq

end DeviceLayer
