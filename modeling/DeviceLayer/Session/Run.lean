import DeviceLayer.Session.Binders
import DeviceLayer.Session.Devices
import DeviceLayer.Session.Lists
import DeviceLayer.Session.Memory
import DeviceLayer.Session.Objects
import DeviceLayer.Session.Pipelines
import DeviceLayer.Session.Surfaces

/-!
# Running a session

Steps are taken one after the other. A step that halts leaves what it had changed, and the steps
after it go on from there.

* `Session.take` — one step: its reply and the session after it.
* `Session.run` — the replies of a list of steps.
-/

namespace DeviceLayer

/-- Takes a step of any family. -/
def Step.play : Step → Play Answer
  | .device step => step.play
  | .memory step => step.play
  | .binder step => step.play
  | .object step => step.play
  | .pipeline step => step.play
  | .list step => step.play
  | .surface step => step.play

namespace Session

/-- The session with an empty trace. -/
def clearLog (s : Session) : Session := { s with world.platform.log := [] }

/-- Takes one step: its reply with the trace that it left, and the session after it. -/
def take (s : Session) (step : Step) : Reply × Session :=
  match step.play s.clearLog with
  | .ok answer t => (⟨.ok answer, t.world.platform.log⟩, t.clearLog)
  | .error halt t => (⟨.error halt, t.world.platform.log⟩, t.clearLog)

/-- The replies of a list of steps. -/
def run (s : Session) : List Step → List Reply
  | [] => []
  | step :: rest => (s.take step).1 :: (s.take step).2.run rest

theorem length_run (s : Session) (steps : List Step) : (s.run steps).length = steps.length := by
  induction steps generalizing s with
  | nil => rfl
  | cons step rest ih => simp [run, ih]

/-- Later steps do not change the replies of earlier ones. -/
theorem run_append (s : Session) (steps more : List Step) :
    s.run (steps ++ more) =
      s.run steps ++ (steps.foldl (fun s step => (s.take step).2) s).run more := by
  induction steps generalizing s with
  | nil => rfl
  | cons step rest ih => simp [run, ih]

end Session

end DeviceLayer
