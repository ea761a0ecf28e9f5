import DeviceLayer.Session.Answer
import DeviceLayer.Session.Names
import DeviceLayer.Surface.Chain

/-!
# The state of a session

A world, and names for what was made in it. A device lives for as long as something holds it: a
name, the registry, a command list, a surface or a mapped region. When the last of them lets go, a
graphics processor waits for what it queued and is gone.

* `Session.holds` — whether a device is held.
* `Play` — a step in the course of being taken; `Play.onWorld` runs an action on the world.
* `Play.letGo` — drops a device that nothing holds.
* `Play.keepDevice`, `keepList`, `keepSurface`, `keepRegion` — give names to things that hold
  devices; what had the name is dropped after that.
* `Play.pointer`, `range`, `deviceKey`, … — find what a reference stands for.
-/

namespace DeviceLayer

/-- A device as a session knows it. -/
structure NamedDevice where
  key : DeviceKey
  /-- The session made it, and so knows of what kind it is. -/
  made : Bool

/-- Something that belongs to a device and holds it. -/
structure Owned (α : Type) where
  key : DeviceKey
  thing : α

/-- A world and the names given in it. -/
structure Session where
  world : World := {}
  devices : Names NamedDevice := {}
  allocations : Names Allocation := {}
  handles : Names CacheHandle := {}
  binders : Names Binder := {}
  pipelines : Names Pipeline := {}
  lists : Names (Owned CommandList) := {}
  surfaces : Names (Owned Surface) := {}
  regions : Names (Owned MappedRegion) := {}
  natives : Names (List Command) := {}

/-- Whether something holds a device. -/
def Session.holds (s : Session) (key : DeviceKey) : Bool :=
  s.devices.any (·.key == key) || s.world.registry.members.contains key ||
    s.lists.any (·.key == key) || s.surfaces.any (·.key == key) || s.regions.any (·.key == key)

/-- A step in the course of being taken: it changes the session, and may halt. -/
abbrev Play := EStateM Halt Session

namespace Play

variable {α β : Type}

/-- Runs an action on the world. -/
def onWorld (action : Action World α) : Play α := fun s =>
  match action s.world with
  | .ok a w => .ok a { s with world := w }
  | .error e w => .error (.fault e) { s with world := w }

/-- An action on the world that halts with its own fault. -/
def check (result : Except Fault α) : Play α :=
  match result with
  | .ok a => pure a
  | .error e => throw (.fault e)

/-! ## Holding devices -/

/-- The end of a device: a graphics processor waits for what it queued. -/
def retire (key : DeviceKey) : Action World Unit := do
  Action.settle (World.onDevice key (pure ()) Gpu.commandSync (pure ()))
  modify fun w => { w with devices := w.devices.erase key }

/-- Drops a device if nothing holds it. -/
def letGo (key : DeviceKey) : Play Unit := do
  if !(← get).holds key then onWorld (retire key)

/-- Drops a command list that lost its name. -/
def dropList (list : Owned CommandList) : Play Unit := do
  onWorld (World.onGpu list.key (Live.update (Gpu.releaseList list.thing)))
  letGo list.key

/-- Drops a surface that lost its name. -/
def dropSurface (surface : Owned Surface) : Play Unit := do
  onWorld (World.onGpu surface.key (Gpu.dropSurface surface.thing))
  letGo surface.key

/-- Gives a device a name, or drops it if it gets none. -/
def keepDevice (keep : Option String) (device : NamedDevice) : Play Unit := do
  match keep with
  | none => letGo device.key
  | some name =>
    let old := (← get).devices.get? name
    modify fun s => { s with devices := s.devices.set name device }
    if let some old := old then letGo old.key

def keepList (keep : Option String) (list : Owned CommandList) : Play Unit := do
  match keep with
  | none => dropList list
  | some name =>
    let old := (← get).lists.get? name
    modify fun s => { s with lists := s.lists.set name list }
    if let some old := old then dropList old

/-- Gives a surface a name, which its image has too. -/
def keepSurface (keep : Option String) (surface : Owned Surface) : Play Unit := do
  match keep with
  | none => dropSurface surface
  | some name =>
    let old := (← get).surfaces.get? name
    modify fun s => { s with
      surfaces := s.surfaces.set name surface
      allocations := s.allocations.set name surface.thing.image }
    if let some old := old then dropSurface old

def keepRegion (keep : Option String) (region : Owned MappedRegion) : Play Unit := do
  if let some name := keep then
    let old := (← get).regions.get? name
    modify fun s => { s with regions := s.regions.set name region }
    if let some old := old then letGo old.key

/-- Takes the names of all regions of an allocation whose mapping is over. -/
def endRegions (key : DeviceKey) (allocId : UInt32) : Play Unit :=
  modify fun s => { s with
    regions := s.regions.reject fun r => r.key == key && r.thing.allocId == allocId }

/-! ## Giving names to values -/

def keepAllocation (keep : Option String) (alloc : Allocation) : Play Unit := do
  if let some name := keep then
    modify fun s => { s with allocations := s.allocations.set name alloc }

def keepHandle (keep : Option String) (handle : CacheHandle) : Play Unit := do
  if let some name := keep then
    modify fun s => { s with handles := s.handles.set name handle }

def keepBinder (keep : Option String) (binder : Binder) : Play Unit := do
  if let some name := keep then
    modify fun s => { s with binders := s.binders.set name binder }

def keepPipeline (keep : Option String) (pipeline : Pipeline) : Play Unit := do
  if let some name := keep then
    modify fun s => { s with pipelines := s.pipelines.set name pipeline }

def keepNative (keep : Option String) (commands : List Command) : Play Unit := do
  if let some name := keep then
    modify fun s => { s with natives := s.natives.set name commands }

/-! ## Finding what references stand for -/

/-- What a name stands for. -/
def resolve (what : Noun) (names : Session → Names α) (name : String) : Play α := do
  match (names (← get)).get? name with
  | some a => pure a
  | none => throw (.unbound what name)

/-- The device behind a name. -/
def deviceKey (name : String) : Play DeviceKey := do
  return (← resolve .device (·.devices) name).key

/-- The graphics processor that the session made under a name. -/
def gpuKey (name : String) : Play DeviceKey := do
  let d ← resolve .device (·.devices) name
  match (← get).world.devices.get? d.key with
  | some (.gpu _) => if d.made then pure d.key else throw (.notGpu name)
  | _ => throw (.notGpu name)

/-- The device behind a transport that the session made under a name. -/
def remoteKey (name : String) : Play DeviceKey := do
  let d ← resolve .device (·.devices) name
  match (← get).world.devices.get? d.key with
  | some (.remote _) => if d.made then pure d.key else throw (.notRemote name)
  | _ => throw (.notRemote name)

def allocation (ref : AllocRef) : Play Allocation :=
  match ref with
  | .exact alloc => pure alloc
  | .named name => resolve .allocation (·.allocations) name

def pointer (ref : PointerRef) : Play Pointer := do
  match ref with
  | .null => pure .null
  | .into alloc offset => return (← allocation alloc).pointer offset

def range (start : PointerRef) (length : UInt64) : Play Range := do
  return ⟨← pointer start, length⟩

def handle (ref : HandleRef) : Play CacheHandle :=
  match ref with
  | .exact handle => pure handle
  | .named name => resolve .handle (·.handles) name

/-- The mapping that a list of references stands for. -/
def mapping (ref : MappingRef) : Play Mapping :=
  ref.foldlM (fun m (node, start, length) => do return m.insert node (← range start length)) ∅

/-- The binder behind a name. -/
def binder (name : String) : Play Binder := resolve .binder (·.binders) name

/-- Changes the binder behind a name. -/
def onBinder (name : String) (action : Action Binder α) : Play α := do
  let (result, b) := action.outcome (← binder name)
  modify fun s => { s with binders := s.binders.set name b }
  check result

/-- The pipeline behind a name. -/
def pipeline (name : String) : Play Pipeline := resolve .pipeline (·.pipelines) name

/-! ## Acting on graphics processors -/

/-- An action of a graphics processor. -/
def onGpu (key : DeviceKey) (action : Action (Live Gpu) α) : Play α :=
  onWorld (World.onGpu key action)

/-- An action that keeps what it works on also after a fault, as an action that has none. -/
def keepingOutcome (start : Live Gpu → β) (live : β → Live Gpu) (action : Action β α) :
    Action (Live Gpu) (Except Fault α × β) := fun s =>
  let (result, after) := action.outcome (start s)
  .ok (result, after) (live after)

/-- An action on the list behind a name. -/
def onList (name : String) (action : Action Recording α) : Play α := do
  let owned ← resolve .list (·.lists) name
  let (result, after) ← onGpu owned.key (keepingOutcome (⟨·, owned.thing⟩) (·.live) action)
  modify fun s => { s with lists := s.lists.set name { owned with thing := after.list } }
  check result

/-- An action on the surface behind a name. -/
def onSurface (name : String) (action : Action Presenting α) : Play α := do
  let owned ← resolve .surface (·.surfaces) name
  let (result, after) ← onGpu owned.key (keepingOutcome (⟨·, owned.thing⟩) (·.live) action)
  modify fun s => { s with surfaces := s.surfaces.set name { owned with thing := after.surface } }
  check result

end Play

end DeviceLayer
