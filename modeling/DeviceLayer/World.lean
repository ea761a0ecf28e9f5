import DeviceLayer.Launch
import DeviceLayer.Registry

/-!
# The world

All devices that are alive, the registry in force and the platform. An operation on a device is the
same for every kind of device; what it does is the kind's own.

* `World.onDevice` — runs the action that is a device's own.
* `World.allocate`, …, `World.transfer` — the operations of any device.
* `World.launchInterface`, `World.launch` — the launch protocol over the devices of the world.
-/

namespace DeviceLayer

structure World where
  platform : Platform := {}
  devices : Devices := ∅
  nextKey : DeviceKey := 0
  registry : Registry := {}

namespace World

variable {α : Type}

/-- Keeps a changed device. -/
def keep (key : DeviceKey) (device : Device) (w : World) : World :=
  { w with devices := w.devices.insert key device }

/-- Keeps a changed device and platform. -/
def keepLive {δ : Type} (key : DeviceKey) (device : δ → Device) (s : Live δ) (w : World) : World :=
  { w with devices := w.devices.insert key (device s.device), platform := s.platform }

/-- The fault of a device that is gone. -/
def gone : Fault := .device (.precondition (.unknownDevice .unassigned))

/-- Runs the action of the device's own kind. -/
def onDevice (key : DeviceKey) (host : Action Host α) (gpu : Action (Live Gpu) α)
    (remote : Action (Live Remote) α) : Action World α := fun w =>
  match w.devices.get? key with
  | none => .error gone w
  | some (.host h) =>
    match host h with
    | .ok a h => .ok a (w.keep key (.host h))
    | .error e h => .error e (w.keep key (.host h))
  | some (.gpu g) =>
    match gpu ⟨w.platform, g⟩ with
    | .ok a s => .ok a (w.keepLive key .gpu s)
    | .error e s => .error e (w.keepLive key .gpu s)
  | some (.remote r) =>
    match remote ⟨w.platform, r⟩ with
    | .ok a s => .ok a (w.keepLive key .remote s)
    | .error e s => .error e (w.keepLive key .remote s)

/-- Runs an action of a graphics processor. -/
def onGpu (key : DeviceKey) (action : Action (Live Gpu) α) : Action World α :=
  onDevice key (throw gone) action (throw gone)

/-- The device behind a key. -/
def device (key : DeviceKey) : Action World Device := do
  Action.orRefuse ((← get).devices.get? key) (.unknownDevice .unassigned)

/-- The device with an id in the registry. -/
def find (id : DeviceId) : Action World DeviceKey := do
  Action.orRefuse ((← get).registry.find? id) (.unknownDevice id)

/-- Puts a new device into the world. -/
def addDevice (d : Device) : Action World DeviceKey :=
  modifyGet fun w =>
    (w.nextKey, { w with devices := w.devices.insert w.nextKey d, nextKey := w.nextKey + 1 })

/-- Brings up a graphics processor. -/
def createGpu (limits : Limits) : Action World DeviceKey := do
  let g ← (Gpu.create limits).within (·.platform) fun p w => { w with platform := p }
  addDevice (.gpu g)

/-- Enters a device into the registry. -/
def register (key : DeviceKey) : Action World DeviceId := do
  let w ← get
  let (id, registry, devices) ← Action.checked (w.registry.register w.devices key)
  set { w with registry := registry, devices := devices }
  pure id

/-! ## Memory -/

def allocate (key : DeviceKey) (params : AllocParams) : Action World Allocation :=
  onDevice key (Host.allocate params) (Gpu.allocate params) (Remote.allocate params)

def deallocate (key : DeviceKey) (alloc : Allocation) : Action World Unit :=
  onDevice key (Host.deallocate alloc) (Gpu.deallocate alloc) (Remote.deallocate alloc)

/-- Devices behind a transport have no memory to map. -/
def noMapping {σ : Type} : Action σ α := throw (.device (.unsupported "mock map"))

def map (key : DeviceKey) (alloc : Allocation) : Action World MappedRegion :=
  onDevice key (Host.map alloc) (Gpu.map alloc) noMapping

def mapRange (key : DeviceKey) (pointer : Pointer) (size : UInt64) : Action World MappedRegion :=
  onDevice key (Host.mapRange pointer size) (Gpu.mapRange pointer size) noMapping

def unmap (key : DeviceKey) (alloc : Allocation) : Action World Unit :=
  onDevice key (Host.unmap alloc) (Gpu.unmap alloc) noMapping

def readRange (key : DeviceKey) (range : Range) : Action World Storage :=
  onDevice key (Host.readRange range) (Gpu.readRange range) (Remote.readRange range)

def writeRange (key : DeviceKey) (dst : Pointer) (data : Storage) : Action World Unit :=
  onDevice key (Host.writeRange dst data) (Gpu.writeRange dst data) (Remote.writeRange dst data)

/-- The bytes the host sees in a mapped region of a device. -/
def readRegion (w : World) (key : DeviceKey) (region : MappedRegion) : Storage :=
  match w.devices.get? key with
  | some (.host h) => h.readRegion region
  | some (.gpu g) => g.readRegion region
  | _ => .zeros 0

/-- The host writes into a mapped region of a device. -/
def writeRegion (w : World) (key : DeviceKey) (region : MappedRegion) (offset : Nat)
    (data : Storage) : World :=
  match w.devices.get? key with
  | some (.host h) => w.keep key (.host (h.writeRegion region offset data))
  | some (.gpu g) => w.keep key (.gpu (g.writeRegion region offset data))
  | _ => w

/-! ## Ordering between devices -/

/-- Orders earlier writes to a range before later reads; devices that keep order need nothing. -/
def barrier (key : DeviceKey) (range : Range) : Action World Unit :=
  onDevice key (pure ()) (pure ()) (Remote.receive (.barrier range))

/-- Stalls a device until its writes to a range are seen by another. -/
def syncWrite (key : DeviceKey) (range : Range) (other : DeviceKey) : Action World Unit := do
  let o ← device other
  onDevice key (pure ()) Gpu.waitIdle (Remote.receive (.syncWrite range o.id))

/-- Stalls a device until another is done with a range. A graphics processor leaves the waiting to
the other device. -/
def syncRead (key : DeviceKey) (range : Range) (other : DeviceKey) : Action World Unit := do
  let o ← device other
  match ← device key with
  | .gpu g => if o.id = g.id then pure () else syncWrite other range key
  | _ => onDevice key (pure ()) (pure ()) (Remote.receive (.syncRead range o.id))

/-- Waits for all work of a device. -/
def syncAll (key : DeviceKey) : Action World Unit :=
  onDevice key (pure ()) Gpu.waitIdle (Remote.receive .syncAll)

/-- Waits for all devices of the registry, the newest first. -/
def syncRegistry : Action World Unit := do
  (← get).registry.members.reverse.forM syncAll

/-! ## Transfer and aliases -/

/-- Copies a range through the host. -/
def stage (key : DeviceKey) (dst : Pointer) (src : Range) (source : DeviceKey) :
    Action World Unit := do
  let bytes ← readRange source src
  writeRange key dst bytes

/-- Copies a range of the device `source` to a place on the device `key`. Within one graphics
processor the copy is native where alignment allows it. -/
def transfer (key : DeviceKey) (dst : Pointer) (src : Range) (source : DeviceKey) :
    Action World Unit := do
  match ← device key with
  | .gpu _ =>
    if !(← onGpu key (Gpu.copyWithin dst src)) then stage key dst src source
  | d =>
    Action.require (dst.device = d.id) (.transferElsewhere dst.device d.id)
    stage key dst src source

/-- A pointer through which a device sees a range of another; only devices behind a transport
share memory. -/
def localAlias (key : DeviceKey) (range : Range) : Action World (Option Pointer) := do
  match ← device key with
  | .remote r => pure (r.localAlias? range)
  | _ => pure none

def isAlias (key : DeviceKey) (pointer : Pointer) : Action World Bool := do
  match ← device key with
  | .remote r => pure (r.isAlias pointer)
  | _ => pure false

/-! ## Kernels -/

/-- Runs a kernel whose ranges are all on the device. -/
def launchLocal (key : DeviceKey) (stream kernel : UInt32) (mapping : Mapping) :
    Action World Unit :=
  onDevice key (throw gone) (Gpu.launchLocal stream kernel mapping)
    (Remote.launch stream kernel mapping)

def waitStream (key : DeviceKey) (stream : UInt32) : Action World Unit :=
  onDevice key (throw gone) (Gpu.waitStream stream) (Remote.receive (.waitStream stream))

/-- The launch protocol's view of the world, for launches from the device `key`. -/
def launchInterface (key : DeviceKey) : LaunchInterface (Action World) DeviceKey where
  find := find
  localAlias := localAlias key
  allocate := allocate key
  copyIn dst src source := transfer key dst src source
  syncLocal range source := syncRead key range source
  run := launchLocal key
  copyOut source dst src := transfer source dst src key
  isAlias := isAlias key
  deallocate := deallocate key
  syncSource source range := syncRead source range key

/-- Launches a kernel over ranges of any device of the registry. -/
def launch (key : DeviceKey) (stream kernel : UInt32) (mapping : Mapping) :
    Action World Unit := do
  let here ← device key
  (launchInterface key).launch here.id stream kernel mapping

end World

end DeviceLayer
