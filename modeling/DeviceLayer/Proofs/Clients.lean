import DeviceLayer.Proofs.Frames

/-!
# Clients of a graphics processor

A device together with the command lists its client holds, and every order of calls to them. The
lists are given by their position; a call to a position that holds no list does nothing.

* `Client`, `Call`, `Call.step`, `Client.run` — the calls and what they do.
* `Client.Fresh`, `Client.Reachable` — where a run begins, and where it can be.
* `Queued` — what is written down of a list that was queued. Only statements look at it.
-/

namespace DeviceLayer

structure Queued where
  /-- Stands for its submission. -/
  fence : Platform.Fence
  buffer : CommandBufferId
  sets : List SetHandle
  /-- The list was to be waited for at once, and that wait failed. -/
  waitFailed : Bool
  deriving DecidableEq

/-- A device with the lists its client holds, and what was queued so far. -/
structure Client where
  live : Live Gpu
  lists : List CommandList := []
  queued : List Queued := []

namespace Client

def onDevice {α : Type} (c : Client) (action : Action (Live Gpu) α) : Except Fault α × Client :=
  ((action.outcome c.live).1, { c with live := (action.outcome c.live).2 })

def onList (c : Client) (i : Nat) (action : Action Recording Unit) : Except Fault Unit × Client :=
  match c.lists[i]? with
  | none => (.ok (), c)
  | some list =>
    let (result, r) := action.outcome ⟨c.live, list⟩
    (result, { c with live := r.live, lists := c.lists.set i r.list })

/-- The client after a list was used up. It is dropped, and written down if that queued it. -/
def afterUse (c : Client) (waits : Bool) (result : Except Fault Unit) (r : Recording) : Client :=
  let fence := c.live.platform.submissions
  let entry : Queued := ⟨fence, r.list.buffer, r.list.sets, waits && !result.isOk⟩
  { c with
    live := Gpu.afterDrop r
    queued :=
      if r.live.platform.submissions = fence then c.queued else c.queued ++ [entry] }

/-- Uses a list up by an action that may queue it, and wait for it as the last thing. -/
def useUp (c : Client) (list : CommandList) (waits : Bool) (action : Action Recording Unit) :
    Except Fault Unit × Client :=
  let (result, r) := action.outcome ⟨c.live, list⟩
  (result, c.afterUse waits result r)

end Client

inductive Call where
  | newList
  | record (list : Nat) (call : RecordingCall)
  | finalize (list : Nat)
  | submit (list : Nat) (wait : Bool)
  | drop (list : Nat)
  | sync
  | launch (stream kernel : UInt32) (mapping : Mapping)
  | device (call : DeviceCall)
  /-- The world outside answers otherwise from now on. -/
  | script (script : Script)

/-- One call, its result and the client after it. -/
def Call.step : Call → Client → Except Fault Unit × Client
  | .newList, c =>
    match c.onDevice Gpu.newList with
    | (.ok list, c) => (.ok (), { c with lists := c.lists ++ [list] })
    | (.error e, c) => (.error e, c)
  | .record i call, c => c.onList i call.run
  | .finalize i, c => c.onList i (discard Recording.finalize)
  | .submit i wait, c =>
    match c.lists[i]? with
    | none => (.ok (), c)
    | some list =>
      { c with lists := c.lists.eraseIdx i }.useUp list wait (Recording.submit wait)
  | .drop i, c =>
    match c.lists[i]? with
    | none => (.ok (), c)
    | some list =>
      { c with lists := c.lists.eraseIdx i }.onDevice (Live.update (Gpu.releaseList list))
  | .sync, c => c.onDevice Gpu.commandSync
  | .launch stream kernel mapping, c =>
    match c.onDevice (Gpu.prepareLaunch stream kernel mapping) with
    | (.error e, c) => (.error e, c)
    | (.ok (kernel, binder), c) =>
      match c.onDevice Gpu.newList with
      | (.error e, c) => (.error e, c)
      | (.ok list, c) => c.useUp list false (kernel.queue binder)
  | .device call, c => c.onDevice call.run
  | .script answers, c => (.ok (), { c with live.platform.script := answers })

namespace Client

/-- The client after a list of calls; a call that fails ends nothing. -/
def run (c : Client) (calls : List Call) : Client := calls.foldl (fun c call => (call.step c).2) c

/-- A device that was just brought up and registered, with no list and nothing queued. -/
inductive Fresh : Client → Prop where
  | mk {limits : Limits} {p q : Platform} {g : Gpu} (id : DeviceId)
      (created : Gpu.create limits p = .ok g q) (orderly : p.Orderly) :
      Fresh { live := ⟨q, { g with assigned := some id }⟩ }

/-- A device with the default limits on a platform that nothing was asked of before. -/
def opened (id : DeviceId) : Client :=
  let (connection, platform) := Platform.connect {} {}
  let (placeholder, platform) :=
    platform.makeBuffer connection .placeholder Gpu.placeholderSize
  { live := ⟨platform, { assigned := some id, connection, adapter := .cpu, placeholder }⟩ }

theorem fresh_opened (id : DeviceId) : (opened id).Fresh :=
  @Fresh.mk {} {} _ _ id rfl fun _ => Nat.le_refl _

/-- What a client of a fresh device can come to. -/
def Reachable (c : Client) : Prop := ∃ start : Client, start.Fresh ∧ ∃ calls, c = start.run calls

/-- A property of fresh clients that every call keeps holds of every reachable client. -/
theorem Reachable.induct {P : Client → Prop} (fresh : ∀ c : Client, c.Fresh → P c)
    (step : ∀ (call : Call) (c : Client), P c → P (call.step c).2) {c : Client}
    (reachable : c.Reachable) : P c := by
  obtain ⟨start, isFresh, calls, rfl⟩ := reachable
  have holds := fresh start isFresh
  clear isFresh
  induction calls generalizing start with
  | nil => exact holds
  | cons call calls ih => exact ih _ (step call start holds)

theorem Reachable.after {c : Client} (reachable : c.Reachable) (calls : List Call) :
    (c.run calls).Reachable := by
  obtain ⟨start, fresh, before, rfl⟩ := reachable
  exact ⟨start, fresh, before ++ calls, (List.foldl_append ..).symm⟩

theorem outcome_usingList (list : CommandList) (action : Action Recording Unit) (s : Live Gpu) :
    (Gpu.usingList list action).outcome s =
      ((action.outcome ⟨s, list⟩).1, Gpu.afterDrop (action.outcome ⟨s, list⟩).2) := by
  simp only [Gpu.usingList, Action.outcome]
  cases action ⟨s, list⟩ <;> rfl

/-- Launching is what the device does when it is asked to launch. -/
theorem launch_step (stream kernel : UInt32) (mapping : Mapping) (c : Client) :
    (((Call.launch stream kernel mapping).step c).1,
      ((Call.launch stream kernel mapping).step c).2.live) =
        (Gpu.launchLocal stream kernel mapping).outcome c.live := by
  unfold Call.step Gpu.launchLocal
  simp only [Action.outcome_bind, onDevice]
  cases (Gpu.prepareLaunch stream kernel mapping).outcome c.live with
  | mk prepared live =>
    cases prepared with
    | error e => rfl
    | ok found =>
      obtain ⟨kernel, binder⟩ := found
      simp only
      cases Gpu.newList.outcome live with
      | mk made live =>
        cases made with
        | error e => rfl
        | ok list => exact (outcome_usingList list (kernel.queue binder) live).symm

end Client

end DeviceLayer
