import DeviceLayer.Session.State

/-!
# Steps on binders

A binder is a value: a copy of one goes its own way, and a pipeline's binder is copied out of it.
-/

namespace DeviceLayer

/-- The pointer and the size that a binding takes. -/
def BindExtent.resolve : BindExtent → Pointer → Pointer × UInt64
  | .window size, p => (p, size)
  | .whole, p => (p.allocation.pointer 0, wholeSize)

open Play in
def BinderStep.play : BinderStep → Play Answer
  | .create keep => do
    keepBinder keep {}
    pure .done
  | .ofPipeline name keep => do
    let b := (← pipeline name).binder
    keepBinder keep b
    pure (.binder b)
  | .clone name keep => do
    keepBinder keep (← binder name)
    pure .done
  | .info name => return .binder (← binder name)
  | .lock name => do
    onBinder name (modify Binder.lock)
    pure .done
  | .bind ref name group binding kind extent => do
    let (p, size) := extent.resolve (← pointer ref)
    onBinder name (Binder.bindSlot group binding kind p size)
    pure .done
  | .vertexBuffer ref name binding => do
    let p ← pointer ref
    onBinder name (modify (·.vertexBuffer p binding))
    pure .done
  | .indexBuffer ref name format => do
    let p ← pointer ref
    onBinder name (modify (·.withIndexBuffer p format))
    pure .done
  | .slot name group binding => do
    let b ← binder name
    pure (.slot (b.slot? group binding) (b.descriptorWrites group).length
      (b.setLayout? group).isSome)
  | .register source name => do
    let reflection ← check source.reflect
    onBinder name reflection.register
    pure .done

end DeviceLayer
