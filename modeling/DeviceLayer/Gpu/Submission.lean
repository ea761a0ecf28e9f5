import DeviceLayer.CommandList.Recording

/-!
# Submission

A list takes a command buffer when it is made and gives it back, with its descriptor sets, when it
is dropped. What was queued and not waited for comes back only at the next synchronisation.

* `Gpu.newList`, `Gpu.releaseList`, `Gpu.usingList` — the life of a list.
* `Recording.submit` — queues a list, and waits for it if asked to.
* `Gpu.commandSync` — waits for everything in flight and reclaims it.
-/

namespace DeviceLayer

namespace Gpu

/-- Takes a free command buffer, or a new one. -/
def acquireCommandBuffer : Action (Live Gpu) CommandBufferId := do
  let g ← Live.self
  match g.tracker.acquire? with
  | some (buffer, tracker) =>
    Live.update fun g => { g with tracker := tracker }
    pure buffer
  | none =>
    let (number, next) ← Action.check (takeNumber g.nextCommandBuffer)
    Live.update fun g => { g with nextCommandBuffer := next }
    pure ⟨number⟩

/-- An empty list that is recording. -/
def newList : Action (Live Gpu) CommandList := do
  return { buffer := ← acquireCommandBuffer }

/-- Takes back the buffer and the sets of a dropped list. -/
def releaseList (list : CommandList) (g : Gpu) : Gpu :=
  let (reusable, tracker) := g.tracker.release list.buffer list.sets
  recycleSets reusable { g with tracker := tracker }

/-- The device after the list at hand is dropped. -/
def afterDrop (r : Recording) : Live Gpu :=
  { r.live with device := releaseList r.list r.live.device }

/-- Uses a list up: it is dropped at the end, also after a fault. -/
def usingList {α : Type} (list : CommandList) (action : Action Recording α) :
    Action (Live Gpu) α := fun s =>
  match action ⟨s, list⟩ with
  | .ok a r => .ok a (afterDrop r)
  | .error e r => .error e (afterDrop r)

/-- Waits for every submission in flight, then frees what was handed back before its fence. -/
def commandSync : Action (Live Gpu) Unit := do
  let (sets, tracker) ← (← Live.self).tracker.syncWith fun fence => wait (some fence)
  Live.update fun g => recycleSets sets { g with tracker := tracker }

end Gpu

/-- Finalizes and queues the list at hand. With `wait` it blocks until the work is done; without,
the list's buffer is in flight until the next synchronisation. -/
def Recording.submit (wait : Bool) : Action Recording Unit := do
  let commands ← Action.orRefuse (← finalize) .finalizedByCaller
  let fence ← onDevice (Live.request (Platform.submit .commandList commands))
  if wait then onDevice (Gpu.wait (some fence))
  else
    let buffer := (← current).buffer
    let g ← onDevice Live.self
    let tracker ← Action.orRefuse (g.tracker.markSubmitted? buffer fence)
      (.alreadyInFlight buffer.text)
    onDevice (Live.update fun g => { g with tracker := tracker })

end DeviceLayer
