import DeviceLayer.Session.State

/-!
# Steps on the registry and on devices

A session replaces its registry only when the new one is there. The devices of the old one are
drained, the newest first, and each is dropped after its turn unless something else holds it.
-/

namespace DeviceLayer

namespace Play

/-- The registry in force. -/
def registryInfo : Play Answer := do
  let r := (← get).world.registry
  pure (.registry r.size r.capacity)

/-- Puts a new registry in force. -/
def makeRegistry (request : RegistryRequest) : Action World Unit :=
  match request with
  | .empty capacity => modify fun w => { w with registry := { capacity } }
  | .withHost => do
    modify fun w => { w with registry := {} }
    let host ← World.addDevice (.host {})
    discard <| World.register host

def replaceRegistry (request : RegistryRequest) : Play Unit := do
  let old := (← get).world.registry
  onWorld (makeRegistry request)
  old.members.reverse.forM fun key => do
    onWorld (Action.settle (World.syncAll key))
    letGo key

def createDevice (request : DeviceRequest) : Play DeviceKey :=
  match request with
  | .host => onWorld (World.addDevice (.host {}))
  | .remote device => onWorld (World.addDevice (.remote device))
  | .gpu limits true => onWorld (World.createGpu limits)
  | .gpu _ false => throw (.fault (.setup .noAdapter))

/-- Takes a device's name. -/
def dropDevice (name : String) : Play Unit := do
  let key ← deviceKey name
  modify fun s => { s with devices := s.devices.erase name }
  letGo key

/-- What a device says of itself; only host devices that the session made count their blocks. -/
def deviceInfo (made : Bool) (d : Device) : DeviceInfo where
  id := d.id
  slot := d.assigned
  type := d.type
  capabilities := d.capabilities
  memory := Named.all.map d.availableMemory
  streams := d.streams?
  live := match d with
    | .host h => if made then some h.blocks.size else none
    | _ => none

/-- Sets which calls of a device behind a transport fail. -/
def setFailing (name : String) (calls : List String) : Play Unit := do
  let key ← remoteKey name
  onWorld (World.onDevice key (pure ()) (pure ())
    (Live.update fun r => { r with failing := calls }))

/-- The id and the type of a registered device. -/
def registered (id : DeviceId) : Play Answer := do
  let w := (← get).world
  match w.registry.find? id with
  | none => pure (.registered none)
  | some key =>
    let d ← onWorld (World.device key)
    pure (.registered (some (d.id, d.type)))

end Play

def DeviceStep.play : DeviceStep → Play Answer
  | .replaceRegistry request => do
    Play.replaceRegistry request
    Play.registryInfo
  | .registryInfo => Play.registryInfo
  | .syncRegistry => do
    Play.onWorld World.syncRegistry
    pure .done
  | .create request keep => do
    let key ← Play.createDevice request
    Play.keepDevice keep ⟨key, true⟩
    pure .done
  | .register device => do
    let id ← Play.onWorld (World.register (← Play.deviceKey device))
    pure (.count id.index.toNat)
  | .lookup id => Play.registered id
  | .fetch id keep => do
    let key ← Play.onWorld (World.find id)
    Play.keepDevice keep ⟨key, false⟩
    pure .done
  | .drop device => do
    Play.dropDevice device
    pure .done
  | .info name => do
    let d ← Play.resolve .device (·.devices) name
    let device ← Play.onWorld (World.device d.key)
    pure (.device (Play.deviceInfo d.made device))
  | .setFailing device calls => do
    Play.setFailing device calls
    pure .done
  | .script change => do
    modify fun s =>
      { s with world.platform.script := s.world.platform.script.change change }
    pure .done

end DeviceLayer
