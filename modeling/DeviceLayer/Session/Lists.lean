import DeviceLayer.Gpu.Submission
import DeviceLayer.Session.State

/-!
# Steps on command lists

A call to a list resolves its own references first and the list last. Submitting uses the list up:
its name is free afterwards, also when the submission fails.
-/

namespace DeviceLayer

namespace Play

/-- Takes a list's name and runs the last action on the list. -/
def useList (name : String) (action : Action Recording Unit) : Play Unit := do
  let owned ← resolve .list (·.lists) name
  modify fun s => { s with lists := s.lists.erase name }
  try onGpu owned.key (Gpu.usingList owned.thing action)
  finally letGo owned.key

def attachment (ref : AttachmentRef) : Play Attachment := do
  return ⟨← allocation ref.1, ref.2⟩

/-- Queues a kept command buffer, which is then gone. -/
def queueNative (device name : String) : Play Unit := do
  let key ← gpuKey device
  let commands ← resolve .native (·.natives) name
  modify fun s => { s with natives := s.natives.erase name }
  onGpu key do discard <| Live.request (Platform.submit .commandList commands)

end Play

open Play in
def ListCall.play (list : String) : ListCall → Play Answer
  | .bindPipeline name => do
    let p ← pipeline name
    onList list (Recording.bindPipeline p)
    pure .done
  | .bindResources name times => do
    let b ← binder name
    onList list (Action.times times (Recording.bindResources b))
    pure .done
  | .bufferBarrier ref => do
    discard <| pointer ref
    onList list Recording.barrier
    pure .done
  | .memoryBarrier => do
    onList list Recording.barrier
    pure .done
  | .copy dstRef srcRef size => do
    let dst ← pointer dstRef
    let src ← pointer srcRef
    onList list (Recording.copy dst src size)
    pure .done
  | .fill ref size word => do
    let p ← pointer ref
    onList list (Recording.fill p size word)
    pure .done
  | .dispatch x y z => do
    onList list (Recording.dispatch x y z)
    pure .done
  | .beginPass area colorRefs depthRef => do
    let colors ← colorRefs.mapM attachment
    let depth ← depthRef.mapM attachment
    onList list (Recording.beginPass area colors depth)
    pure .done
  | .endPass => do
    onList list Recording.endPass
    pure .done
  | .draw count first => do
    onList list (Recording.draw count first)
    pure .done
  | .drawIndexed count baseVertex first => do
    onList list (Recording.drawIndexed count baseVertex first)
    pure .done
  | .info => do
    let l ← onList list Recording.current
    pure (.list l.finalized l.sets.length)
  | .finalize keep => do
    match ← onList list Recording.finalize with
    | none => pure (.flag false)
    | some commands =>
      keepNative keep commands
      pure (.flag true)

open Play in
def ListStep.play : ListStep → Play Answer
  | .create device keep => do
    let key ← gpuKey device
    keepList keep ⟨key, ← onGpu key Gpu.newList⟩
    pure .done
  | .call list request => request.play list
  | .submit list wait => do
    useList list (Recording.submit wait)
    pure .done
  | .drop list => do
    let owned ← resolve .list (·.lists) list
    modify fun s => { s with lists := s.lists.erase list }
    dropList owned
    pure .done
  | .queue device native => do
    queueNative device native
    pure .done
  | .sync device => do
    let key ← gpuKey device
    onGpu key Gpu.commandSync
    pure .done

end DeviceLayer
