import DeviceLayer.Proofs.WindowFaults

/-!
# Native calls are safe

Whatever is asked of the devices of a world and of the lists that are recorded for them, the queue
is asked only for whole groups of bytes that lie in the buffers they are of. The checks in front of
it are never what a call fails for, and no window leaves the word.

* `Fleet` — a world with the lists that are recorded for its devices.
* `FleetCall`, `Fleet.Reachable` — everything that is asked of them, and where that can lead.
* `FleetCall.asks` — a call keeps what fits, and asks the queue for no more.
* `Fleet.native_calls_fit` — so nothing ever does.
-/

namespace DeviceLayer

open DeviceLayer.Action

/-- A world with the lists that clients hold of each device, and the commands that they took from
lists and have not queued yet. -/
structure Fleet where
  world : World := {}
  lists : DeviceKey → List CommandList := fun _ => []
  taken : DeviceKey → List (List Command) := fun _ => []

inductive FleetCall where
  /-- Brings a graphics processor up on an adapter that serves its limits. -/
  | bringUp (limits : { limits : Limits // limits.Fit })
  | addRemote (device : { device : Remote // device.Sized })
  | world (call : { call : WorldCall // call.brings = false })
  | writeRegion (key : DeviceKey) (region : MappedRegion) (offset : Nat) (data : HostData)
  /-- A client of a graphics processor asks for something, also of the lists it holds. -/
  | ask (key : DeviceKey) (request : { request : Request // request.isOwn = true })

namespace Fleet

/-- The client of a graphics processor. -/
def holder (f : Fleet) (key : DeviceKey) (g : Gpu) : Holder :=
  { client := { live := ⟨f.world.platform, g⟩, lists := f.lists key }, taken := f.taken key }

/-- The fleet with the client of one device as it is by now. -/
def put (f : Fleet) (key : DeviceKey) (h : Holder) : Fleet where
  world := f.world.put key (.gpu h.client.live.device) h.client.live.platform
  lists := Function.update f.lists key h.client.lists
  taken := Function.update f.taken key h.taken

end Fleet

/-- The fleet after a call, whether it succeeds or fails. -/
def FleetCall.step : FleetCall → Fleet → Fleet
  | .bringUp limits, f => { f with world := ((World.bringUp limits).outcome f.world).2 }
  | .addRemote device, f =>
    { f with world := ((World.addDevice (.remote device)).outcome f.world).2 }
  | .world call, f => { f with world := (call.val.run.outcome f.world).2 }
  | .writeRegion key region offset data, f =>
    -- Outside of what is mapped the host has no such bytes.
    if f.world.maps key region && offset + data.val.size ≤ region.length then
      { f with world := f.world.writeRegion key region offset data }
    else f
  | .ask key request, f =>
    match f.world.devices.get? key with
    | some (.gpu g) => f.put key (request.val.step (f.holder key g))
    | _ => f

namespace Fleet

/-- What can come of a fleet of which nothing was asked yet. -/
inductive Reachable : Fleet → Prop where
  | new : Reachable {}
  | step {f : Fleet} (call : FleetCall) (before : Reachable f) : Reachable (call.step f)

def after (f : Fleet) (calls : List FleetCall) : Fleet :=
  calls.foldl (fun f call => call.step f) f

theorem Reachable.after {f : Fleet} (reachable : f.Reachable) (calls : List FleetCall) :
    (f.after calls).Reachable :=
  List.foldlRecOn calls _ reachable fun _ before call _ => .step call before

/-! ## One call -/

/-- All devices fit, and so will all that waits to be queued. -/
structure Fit (f : Fleet) : Prop where
  world : f.world.Fit
  lists : ∀ key, ∀ list ∈ f.lists key, list.Fits f.world.platform.contents
  taken : ∀ key, ∀ commands ∈ f.taken key, ∀ command ∈ commands,
    command.Fits f.world.platform.contents

def Asks (f f' : Fleet) : Prop := f.Fit → f'.Fit ∧ f.world.platform.Asks f'.world.platform

variable {f : Fleet} {key : DeviceKey} {g : Gpu} {h : Holder}

/-- Lists that nobody looks at fit as before. -/
theorem asks_world {w : World} (asks : f.world.Asks w) : Asks f { f with world := w } := by
  intro fit
  obtain ⟨world, asked⟩ := asks fit.world
  refine ⟨⟨world, fun key list member => ?_, fun key commands member command inside => ?_⟩, asked⟩
  · exact (fit.lists key list member).lasts asked.lasts
  · exact (fit.taken key commands member command inside).lasts asked.lasts

theorem Fit.holder (fit : f.Fit) (found : f.world.devices.get? key = some (.gpu g)) :
    (f.holder key g).Fit :=
  ⟨fit.world.each found, fit.lists key, fit.taken key⟩

/-- What one client does is seen by all others only in the native buffers. -/
theorem asks_put (found : f.world.devices.get? key = some (.gpu g))
    (asks : (f.holder key g).Asks h) : Asks f (f.put key h) := by
  intro fit
  obtain ⟨own, asked⟩ := asks (fit.holder found)
  have new : (Device.gpu h.client.live.device).Fit h.client.live.platform := own.device
  obtain ⟨world, asked⟩ := fit.world.put new asked
  refine ⟨⟨world, fun k list member => ?_, fun k commands member command inside => ?_⟩, asked⟩
  · simp only [put, Function.update_apply] at member
    split at member
    · exact own.lists list member
    · exact (fit.lists k list member).lasts asked.lasts
  · simp only [put, Function.update_apply] at member
    split at member
    · exact own.taken commands member command inside
    · exact (fit.taken k commands member command inside).lasts asked.lasts

end Fleet

theorem FleetCall.asks (call : FleetCall) (f : Fleet) : Fleet.Asks f (call.step f) := by
  open Fleet in
  cases call with
  | bringUp limits => exact asks_world ((World.asks_bringUp limits.property).outcome f.world)
  | addRemote device =>
    have added : (World.addDevice (.remote device)).Evolves World.Asks := fun w =>
      World.asks_addDevice device.property
    exact asks_world (added.outcome f.world)
  | world call =>
    have asks := call.val.evolves World.asks_steps call.property
    exact asks_world (asks.outcome f.world)
  | writeRegion key region offset data =>
    simp only [step, Bool.and_eq_true, decide_eq_true_eq]
    split
    · rename_i bounds
      exact asks_world (World.asks_writeRegion bounds.1 bounds.2)
    · exact fun fit => ⟨fit, Evolution.refl _⟩
  | ask key request =>
    simp only [step]
    split
    · rename_i g found
      exact asks_put found (request.val.asks request.property _)
    · exact fun fit => ⟨fit, Evolution.refl _⟩

/-- A list that is submitted was checked when it was recorded. -/
theorem Client.clear_submit (i : Nat) (wait : Bool) (c : Client) {e : Fault}
    (failed : ((Call.submit i wait).step c).1 = .error e) : e.ofWindow = false := by
  simp only [Call.step] at failed
  split at failed
  · cases failed
  · rename_i list found
    exact (Recording.clear_submit wait ⟨c.live, list⟩).failed (Prod.ext failed rfl)

namespace Fleet

/-! ## Every run -/

/-- All fits wherever a run can lead, and so does all that the queue was asked for on the way. -/
theorem Reachable.asks {f : Fleet} (reachable : f.Reachable) :
    f.Fit ∧ ({} : Platform).Asks f.world.platform := by
  induction reachable with
  | new => exact ⟨⟨⟨nofun⟩, fun _ => nofun, fun _ => nofun⟩, Evolution.refl _⟩
  | step call _ ih =>
    obtain ⟨fit, sooner⟩ := ih
    obtain ⟨fit, later⟩ := call.asks _ fit
    exact ⟨fit, Evolution.trans sooner later⟩

/-- Wherever a run can lead: all copies, clears and writes that the queue was asked for move whole
groups of four bytes, and lie in the buffers that they name. No memory call fails because a window
ends outside its native buffer or outside the word; a word is left only when a device has given all
its ids and is asked for one more. And no recorded list fails for a window when it is queued. -/
theorem native_calls_fit {f : Fleet} (reachable : f.Reachable) :
    (∀ e ∈ f.world.platform.log, e.Fits f.world.platform.contents) ∧
      (∀ (key : DeviceKey) (request : MemoryRequest) (e : Fault) (w : World), request.Sized →
        (request.run key).outcome f.world = (.error e, w) → e.ofWindow = true →
          (∃ params, request = .allocate params) ∧ f.world.IsFull key) ∧
      ∀ (key : DeviceKey) (g : Gpu) (i : Nat) (wait : Bool) (e : Fault),
        f.world.devices.get? key = some (.gpu g) →
          ((Call.submit i wait).step (f.holder key g).client).1 = .error e →
            e.ofWindow = false := by
  obtain ⟨fit, asks⟩ := reachable.asks
  refine ⟨?_, ?_, ?_⟩
  · intro e member
    obtain ⟨more, asked, fits⟩ := asks.asked
    cases queues : e.queues with
    | false => exact Event.fits_of_not_queues queues
    | true =>
      have counted : e ∈ f.world.platform.asked := List.mem_filter.2 ⟨member, queues⟩
      rw [asked] at counted
      exact fits e counted
  · intro key request e w sized failed
    exact (request.faults fit.world key sized).failed failed
  · intro key g i wait e _ failed
    exact Client.clear_submit i wait _ failed

/-- A graphics processor with the largest limit, a buffer of that size and one of seven bytes. The
host writes to the odd end of each, and a list copies the end of the one to the other. -/
def edges : List FleetCall :=
  let last : Pointer := ⟨⟨0⟩, 0, 0xFFFFFFFFFFFFFFF8⟩
  let small : Pointer := ⟨⟨0⟩, 1, 0⟩
  [.bringUp ⟨{ maxBufferSize := 0xFFFFFFFFFFFFFFFC }, by decide⟩, .world ⟨.register 0, rfl⟩,
    .world ⟨.allocate 0 (.hostVisible 0xFFFFFFFFFFFFFFFC), rfl⟩,
    .world ⟨.allocate 0 (.hostVisible 7), rfl⟩,
    .world ⟨.write 0 { last with offset := 0xFFFFFFFFFFFFFFF9 } (.ofBytes [1, 2, 3]), rfl⟩,
    .world ⟨.mapRange 0 { small with offset := 1 } wholeSize, rfl⟩,
    .writeRegion 0 ⟨1, 1, 6⟩ 2 ⟨.ofBytes [4, 5, 6, 7], by decide⟩,
    .world ⟨.unmap 0 ⟨⟨0⟩, 1⟩, rfl⟩,
    .ask 0 ⟨.ask .newList, rfl⟩, .ask 0 ⟨.ask (.record 0 (.fill small 4 0)), rfl⟩,
    .ask 0 ⟨.ask (.record 0 (.copy small last wholeSize)), rfl⟩,
    .ask 0 ⟨.ask (.finalize 0), rfl⟩, .ask 0 ⟨.queue 0, rfl⟩]

theorem native_calls_fit_edges :
    let f := after {} edges
    f.world.platform.asked.length = 6 ∧
      f.world.memory (0, 1) = some [0, 1, 2, 3, 5, 6, 7] ∧
      (∀ e ∈ f.world.platform.log, e.Fits f.world.platform.contents) ∧
      ∀ (e : Fault) (w : World),
        ((MemoryRequest.readRange ⟨⟨⟨0⟩, 0, 0xFFFFFFFFFFFFFFF9⟩, 3⟩).run 0).outcome f.world =
          (.error e, w) → e.ofWindow = false := by
  intro f
  obtain ⟨fits, faults, -⟩ := native_calls_fit (Reachable.new.after edges)
  refine ⟨by decide +kernel, by decide +kernel, fits, fun e w failed => ?_⟩
  apply Bool.eq_false_iff.2
  intro window
  obtain ⟨⟨params, same⟩, -⟩ := faults 0 (.readRange _) e w trivial failed window
  cases same

end Fleet

end DeviceLayer
