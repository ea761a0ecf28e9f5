import DeviceLayer.Session.State

/-!
# Steps on memory

The operations of any device, transfers between devices and kernel launches. References are
resolved in the order in which a step lists them, so the first that stands for nothing is named.
A launch asks whether its device runs kernels before it resolves what the kernel works on.
-/

namespace DeviceLayer

namespace Play

/-- Maps a window and names the region. -/
def mapped (key : DeviceKey) (keep : Option String) (map : Action World MappedRegion) :
    Play Answer := do
  let region ← onWorld map
  keepRegion keep ⟨key, region⟩
  pure (.region region.length)

/-- Writes into a mapped region. -/
def writeRegion (name : String) (offset : Nat) (data : Bytes) : Play Unit := do
  let r ← resolve .region (·.regions) name
  if r.thing.length < offset + data.length then throw (.outOfRegion name)
  modify fun s => { s with world := s.world.writeRegion r.key r.thing offset (.ofBytes data) }

/-- Goes on only if the device behind a name runs kernels. -/
def requireCompute (name : String) (key : DeviceKey) : Play Unit := do
  let d ← onWorld (World.device key)
  if d.streams?.isNone then throw (.noCompute name)

end Play

open Play in
def MemoryStep.play : MemoryStep → Play Answer
  | .allocate device params keep => do
    let key ← deviceKey device
    let alloc ← onWorld (World.allocate key params)
    keepAllocation keep alloc
    pure (.allocation alloc)
  | .deallocate device ref => do
    let key ← deviceKey device
    let alloc ← allocation ref
    onWorld (World.deallocate key alloc)
    endRegions key alloc.id
    pure .done
  | .map device ref keep => do
    let key ← deviceKey device
    let alloc ← allocation ref
    mapped key keep (World.map key alloc)
  | .mapRange device start size keep => do
    let key ← deviceKey device
    let p ← pointer start
    mapped key keep (World.mapRange key p size)
  | .unmap device ref => do
    let key ← deviceKey device
    let alloc ← allocation ref
    onWorld (World.unmap key alloc)
    endRegions key alloc.id
    pure .done
  | .readRegion name => do
    let r ← resolve .region (·.regions) name
    return .bytes ((← get).world.readRegion r.key r.thing).toBytes
  | .writeRegion name offset data => do
    Play.writeRegion name offset data
    pure .done
  | .read device start length => do
    let key ← deviceKey device
    let r ← range start length
    return .bytes (← onWorld (World.readRange key r)).toBytes
  | .write device dst data => do
    let key ← deviceKey device
    let p ← pointer dst
    onWorld (World.writeRange key p (.ofBytes data))
    pure .done
  | .transfer device source dst start length => do
    let key ← deviceKey device
    let sourceKey ← deviceKey source
    let p ← pointer dst
    let r ← range start length
    onWorld (World.transfer key p r sourceKey)
    pure .done
  | .barrier device start length => do
    let key ← deviceKey device
    let r ← range start length
    onWorld (World.barrier key r)
    pure .done
  | .syncRead device other start length => do
    let key ← deviceKey device
    let otherKey ← deviceKey other
    let r ← range start length
    onWorld (World.syncRead key r otherKey)
    pure .done
  | .syncWrite device other start length => do
    let key ← deviceKey device
    let otherKey ← deviceKey other
    let r ← range start length
    onWorld (World.syncWrite key r otherKey)
    pure .done
  | .syncAll device => do
    onWorld (World.syncAll (← deviceKey device))
    pure .done
  | .localAlias device start length => do
    let key ← deviceKey device
    let r ← range start length
    return .alias (← onWorld (World.localAlias key r))
  | .isAlias device ref => do
    let key ← deviceKey device
    let p ← pointer ref
    return .flag (← onWorld (World.isAlias key p))
  | .launch device stream kernel ref => do
    let key ← deviceKey device
    requireCompute device key
    let m ← mapping ref
    onWorld (World.launch key stream kernel m)
    pure .done
  | .launchLocal device stream kernel ref => do
    let key ← deviceKey device
    requireCompute device key
    let m ← mapping ref
    onWorld (World.launchLocal key stream kernel m)
    pure .done
  | .waitStream device stream => do
    let key ← deviceKey device
    requireCompute device key
    onWorld (World.waitStream key stream)
    pure .done

end DeviceLayer
