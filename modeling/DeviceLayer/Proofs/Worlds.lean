import DeviceLayer.Proofs.LaunchCalls
import DeviceLayer.Proofs.Tenancy
import DeviceLayer.World

/-!
# Memory of the world

The allocations of all devices and the bytes they hold, as one table. Devices of a world share the
platform, so what keeps the memory of one device apart from that of another is that every live
allocation has a native buffer of its own.

* `World.memory`, `World.live` — the bytes of allocations; the allocations and images there are.
* `World.Housed` — allocations of all devices live apart.
* `WorldCall`, `World.Reachable` — everything that is asked of a world, and where that can lead.
* `WorldCall.evolves` — what the operations of devices keep, most calls keep.
* `World.Reachable.housed` — whatever is asked, allocations live apart.
-/

namespace DeviceLayer

open DeviceLayer.Action

/-- The bytes of every allocation, by device and id. -/
abbrev Memory := DeviceKey × UInt32 → Option Bytes

/-- The bytes that were asked for, without the padding of the native buffer. -/
def BufferAllocation.bytes (c : Contents) (a : BufferAllocation) : Bytes :=
  (c.of a.buffer).toBytes.take a.size

namespace Device

/-- The bytes of an allocation, on a platform with these contents. -/
def memory (c : Contents) : Device → UInt32 → Option Bytes
  | .host h, id => (h.blocks.get? id).map (·.bytes.toBytes)
  | .gpu g, id => (g.buffers.get? id).map (·.bytes c)
  | .remote r, id => (r.allocations.get? id).map (·.toBytes)

def image? : Device → UInt32 → Option Image
  | .gpu g, id => g.images.get? id
  | .host _, _ | .remote _, _ => none

end Device

namespace World

def memory (w : World) : Memory := fun cell =>
  (w.devices.get? cell.1).bind (·.memory w.platform.contents cell.2)

def image? (w : World) (cell : DeviceKey × UInt32) : Option Image :=
  (w.devices.get? cell.1).bind (·.image? cell.2)

/-- Whether a device has an allocation or an image with an id. -/
def live (w : World) (cell : DeviceKey × UInt32) : Bool :=
  (w.memory cell).isSome || (w.image? cell).isSome

/-! ## Replacing one device -/

/-- The world with another device behind a key, and the platform after that. -/
def put (w : World) (key : DeviceKey) (d : Device) (p : Platform) : World :=
  { w with devices := w.devices.insert key d, platform := p }

theorem get?_put (w : World) (key : DeviceKey) (d : Device) (p : Platform) (k : DeviceKey) :
    (w.put key d p).devices.get? k = if k = key then some d else w.devices.get? k := by
  simp only [put, SortedMap.get?_insert, Ranked.rank_eq_iff]

variable {α : Type} {key : DeviceKey} {w : World}

/-- What an action of a device comes to, by the kind of the device. -/
theorem wp_onDevice {host : Action Host α} {gpu : Action (Live Gpu) α}
    {remote : Action (Live Remote) α} {Q : α → World → Prop} {E : Fault → World → Prop} :
    (onDevice key host gpu remote).wp Q E w ↔
      match w.devices.get? key with
      | none => E gone w
      | some (.host h) =>
        host.wp (fun x h => Q x (w.put key (.host h) w.platform))
          (fun e h => E e (w.put key (.host h) w.platform)) h
      | some (.gpu g) =>
        gpu.wp (fun x s => Q x (w.put key (.gpu s.device) s.platform))
          (fun e s => E e (w.put key (.gpu s.device) s.platform)) ⟨w.platform, g⟩
      | some (.remote r) =>
        remote.wp (fun x s => Q x (w.put key (.remote s.device) s.platform))
          (fun e s => E e (w.put key (.remote s.device) s.platform)) ⟨w.platform, r⟩ := by
  unfold wp onDevice
  cases w.devices.get? key with
  | none => rfl
  | some d =>
    cases d with
    | host h => simp only; cases host h <;> rfl
    | gpu g => simp only; cases gpu ⟨w.platform, g⟩ <;> rfl
    | remote r => simp only; cases remote ⟨w.platform, r⟩ <;> rfl

/-- A relation that allows each kind of device its own kind of step holds of an action of any. -/
theorem evolves_onDevice {R : World → World → Prop} [Evolution R] {H : Host → Host → Prop}
    {G : Live Gpu → Live Gpu → Prop} {T : Live Remote → Live Remote → Prop}
    {host : Action Host α} {gpu : Action (Live Gpu) α} {remote : Action (Live Remote) α}
    (onHost : host.Evolves H) (onGpu : gpu.Evolves G) (onRemote : remote.Evolves T)
    (putHost : ∀ (w : World) h h', w.devices.get? key = some (.host h) → H h h' →
      R w (w.put key (.host h') w.platform))
    (putGpu : ∀ (w : World) g s, w.devices.get? key = some (.gpu g) → G ⟨w.platform, g⟩ s →
      R w (w.put key (.gpu s.device) s.platform))
    (putRemote : ∀ (w : World) r s, w.devices.get? key = some (.remote r) → T ⟨w.platform, r⟩ s →
      R w (w.put key (.remote s.device) s.platform)) :
    (onDevice key host gpu remote).Evolves R := by
  intro w
  rw [wp_onDevice]
  split
  · exact Evolution.refl w
  · rename_i h found
    exact (onHost h).mono (fun _ _ => putHost w h _ found) fun _ _ => putHost w h _ found
  · rename_i g found
    exact (onGpu _).mono (fun _ _ => putGpu w g _ found) fun _ _ => putGpu w g _ found
  · rename_i r found
    exact (onRemote _).mono (fun _ _ => putRemote w r _ found) fun _ _ => putRemote w r _ found

/-! ## Allocations live apart -/

/-- Live allocations have native buffers of their own, also across devices. -/
structure Housed (w : World) : Prop where
  each : ∀ {key : DeviceKey} {g : Gpu}, w.devices.get? key = some (.gpu g) →
    Gpu.Housed ⟨w.platform, g⟩
  apart : ∀ {key key' : DeviceKey} {g g' : Gpu} {id id' : UInt32} {n : Nat},
    w.devices.get? key = some (.gpu g) → w.devices.get? key' = some (.gpu g') →
      g.room? id = some n → g'.room? id' = some n → key = key'

/-- A device may be replaced if its allocations live where those of the old one did, or in new
buffers. -/
theorem Housed.put {d : Device} {p : Platform} (h : w.Housed)
    (widens : w.platform.Widens p) (own : ∀ g, d = .gpu g → Gpu.Housed ⟨p, g⟩)
    (rooms : ∀ g id n, d = .gpu g → g.room? id = some n →
      (∃ old, w.devices.get? key = some (.gpu old) ∧ old.room? id = some n) ∨
        w.platform.contents.length ≤ n) :
    (w.put key d p).Housed := by
  -- No other device has a room that the new one has.
  have others {k : DeviceKey} {g : Gpu} {id : UInt32} {n : Nat} (apart : k ≠ key)
      (found : w.devices.get? k = some (.gpu g)) (lives : g.room? id = some n) {g' : Gpu}
      {id' : UInt32} (isNew : d = .gpu g') (lives' : g'.room? id' = some n) : False := by
    rcases rooms g' id' n isNew lives' with ⟨old, here, before⟩ | new
    · exact apart (h.apart found here lives before)
    · exact absurd ((h.each found).stored lives) (Nat.not_lt.2 new)
  refine ⟨fun {k g} found => ?_, fun {k k' g g' id id' n} found found' lives lives' => ?_⟩
  · rw [get?_put] at found
    split at found
    · exact own g (Option.some.inj found)
    · have before : Gpu.KeepsRooms ⟨w.platform, g⟩ ⟨p, g⟩ := ⟨rfl, widens, rfl, UInt32.le_refl _⟩
      exact before.rehoused.housed (h.each found)
  · rw [get?_put] at found found'
    split at found
    · rename_i here
      split at found'
      · rename_i here'
        exact here.trans here'.symm
      · rename_i there
        exact (others there found' lives' (Option.some.inj found) lives).elim
    · rename_i there
      split at found'
      · exact (others there found lives (Option.some.inj found') lives').elim
      · exact h.apart found found' lives lives'

theorem Housed.gpu {g : Gpu} {s : Live Gpu} (h : w.Housed)
    (found : w.devices.get? key = some (.gpu g)) (step : Gpu.Rehoused ⟨w.platform, g⟩ s) :
    (w.put key (.gpu s.device) s.platform).Housed := by
  refine h.put step.platform ?_ ?_
  · rintro _ ⟨⟩
    exact step.housed (h.each found)
  · rintro _ id n ⟨⟩ lives
    exact (step.rooms lives).imp (fun before => ⟨g, found, before⟩) fun new => new

theorem Housed.other {d : Device} {p : Platform} (h : w.Housed) (widens : w.platform.Widens p)
    (other : ∀ g, d ≠ .gpu g) : (w.put key d p).Housed :=
  h.put widens (fun g isGpu => absurd isGpu (other g)) fun g _ _ isGpu => absurd isGpu (other g)

end World

/-! ## What keeps them apart -/

namespace Remote

/-- The device and all native buffers stay as they are. -/
structure Listens (s t : Live Remote) : Prop where
  device : t.device = s.device
  contents : t.platform.contents = s.platform.contents

instance : Evolution Listens where
  refl _ := ⟨rfl, rfl⟩
  trans first second := ⟨second.device.trans first.device, second.contents.trans first.contents⟩

theorem listens_receive (call : RemoteCall) : (receive call).Evolves Listens := by
  refine Live.evolves_self.bind fun r => .bind (Live.evolves_record fun _ => ⟨rfl, rfl⟩) fun _ => ?_
  exact .ite (.throw _) (.pure _)

theorem listens_readRange (range : Range) : (readRange range).Evolves Listens :=
  (listens_receive _).bind fun _ => Live.evolves_self.bind fun _ =>
    (Evolves.checked _).bind fun _ => .pure _

/-- A device behind a transport has no native buffers. -/
def Speaks (s t : Live Remote) : Prop := t.platform.contents = s.platform.contents

instance : Evolution Speaks := ⟨fun _ => rfl, fun first second => Eq.trans second first⟩

theorem speaks_receive (call : RemoteCall) : (receive call).Evolves Speaks :=
  (listens_receive call).mono fun _ _ => Listens.contents

theorem speaks_update (f : Remote → Remote) : (Live.update f).Evolves Speaks :=
  Live.evolves_update fun _ => rfl

theorem speaks_allocate (params : AllocParams) : (allocate params).Evolves Speaks := by
  refine (speaks_receive _).bind fun _ => (Evolves.assert _ _).bind fun _ => ?_
  refine Live.evolves_self.bind fun r => (Evolves.check _).bind fun taken => ?_
  exact (speaks_update _).bind fun _ => .pure _

theorem speaks_writeRange (dst : Pointer) (data : Storage) : (writeRange dst data).Evolves Speaks :=
  (speaks_receive _).bind fun _ => Live.evolves_self.bind fun _ =>
    (Evolves.checked _).bind fun _ => speaks_update _

end Remote

namespace World

/-- Allocations that lived apart still do. -/
def Rehoused (w w' : World) : Prop := w.Housed → w'.Housed

instance : Evolution Rehoused := ⟨fun _ h => h, fun first second h => second (first h)⟩

variable {α : Type}

theorem rehoused_onDevice (key : DeviceKey) (host : Action Host α) {gpu : Action (Live Gpu) α}
    {remote : Action (Live Remote) α} (onGpu : gpu.Evolves Gpu.Rehoused)
    (onRemote : remote.Evolves Remote.Speaks) :
    (onDevice key host gpu remote).Evolves Rehoused := by
  refine evolves_onDevice (.any host) onGpu onRemote ?_ ?_ ?_
  · intro w h h' _ _ housed
    exact housed.other (Nat.le_refl _) fun g => Device.noConfusion
  · intro w g s found step housed
    exact housed.gpu found step
  · intro w r s _ step housed
    exact housed.other (Nat.le_of_eq (congrArg List.length step).symm) fun g => Device.noConfusion

theorem evolves_device {R : World → World → Prop} [Evolution R] (key : DeviceKey) :
    (device key).Evolves R := Evolves.get.bind fun _ => .orRefuse _ _

theorem evolves_find {R : World → World → Prop} [Evolution R] (id : DeviceId) :
    (find id).Evolves R := Evolves.get.bind fun _ => .orRefuse _ _

theorem Housed.widens {w : World} {p : Platform} (h : w.Housed) (widens : w.platform.Widens p) :
    Housed { w with platform := p } := by
  refine ⟨fun {key g} found => ?_, h.apart⟩
  have before : Gpu.KeepsRooms ⟨w.platform, g⟩ ⟨p, g⟩ := ⟨rfl, widens, rfl, UInt32.le_refl _⟩
  exact before.rehoused.housed (h.each found)

theorem Housed.erase {w : World} (h : w.Housed) (key : DeviceKey) :
    Housed { w with devices := w.devices.erase key } := by
  refine ⟨fun left => h.each (SortedMap.get?_of_erase left), fun left left' => ?_⟩
  exact h.apart (SortedMap.get?_of_erase left) (SortedMap.get?_of_erase left')

theorem Housed.congr {w w' : World} (h : w.Housed) (devices : w'.devices = w.devices)
    (platform : w'.platform = w.platform) : w'.Housed := by
  obtain ⟨p, ds, nextKey, registry⟩ := w
  obtain ⟨p', ds', nextKey', registry'⟩ := w'
  cases devices
  cases platform
  exact ⟨h.each, h.apart⟩

theorem rehoused_addDevice {d : Device} (empty : ∀ g, d = .gpu g → g.buffers = ∅) :
    (addDevice d).Evolves Rehoused := by
  intro w housed
  have vacant {g : Gpu} (isGpu : d = .gpu g) (id : UInt32) : g.room? id = none := by
    rw [Gpu.room?, empty g isGpu]
    rfl
  have placed : (w.put w.nextKey d w.platform).Housed := by
    refine housed.put (Nat.le_refl _) (fun g isGpu => ?_) fun g id n isGpu lives => ?_
    · refine ⟨fun lives => ?_, fun lives => ?_, fun lives => ?_⟩
      all_goals
        rw [vacant isGpu] at lives
        cases lives
    · rw [vacant isGpu] at lives
      cases lives
  exact placed.congr rfl rfl

theorem rehoused_createGpu (limits : Limits) : (createGpu limits).Evolves Rehoused := by
  intro w
  have made : (Gpu.create limits).wp (fun g p => g.buffers = ∅ ∧ w.platform.Widens p)
      (fun _ p => w.platform.Widens p) w.platform := by
    -- The placeholder is a native buffer, but of no allocation.
    have widens (c : Connection) (p : Platform) :
        p.Widens (p.makeBuffer c .placeholder Gpu.placeholderSize).2 :=
      (List.prefix_append p.contents _).length_le
    simp only [Gpu.create, wp_bind, wp_ite, wp_throw, wp_modifyGet, wp_get, wp_pure,
      Platform.wp_createBuffer]
    refine ⟨fun _ => Nat.le_refl _, fun _ => ⟨fun _ => ⟨trivial, ?_⟩, fun _ => Nat.le_refl _⟩⟩
    exact widens ⟨w.platform.connections, limits⟩ (w.platform.connect limits).2
  simp only [createGpu, wp_bind, wp_within]
  refine made.mono ?_ fun _ p widens housed => housed.widens widens
  rintro g p ⟨empty, widens⟩
  have added := rehoused_addDevice (d := .gpu g) (by rintro _ ⟨⟩; exact empty)
  refine (added { w with platform := p }).mono ?_ ?_
  · exact fun _ _ step housed => step (housed.widens widens)
  · exact fun _ _ step housed => step (housed.widens widens)

theorem Housed.withId {w : World} {key : DeviceKey} {d : Device} (h : w.Housed)
    (found : w.devices.get? key = some d) (id : DeviceId) :
    (w.put key (d.withId id) w.platform).Housed := by
  cases d with
  | host | remote => exact h.other (Nat.le_refl _) fun g => Device.noConfusion
  | gpu g =>
    have own := h.each found
    refine h.put (Nat.le_refl _) ?_ ?_
    · rintro _ ⟨⟩
      exact ⟨own.numbered, own.stored, own.apart⟩
    · rintro _ id n ⟨⟩ lives
      exact .inl ⟨g, found, lives⟩

theorem rehoused_register (key : DeviceKey) : (register key).Evolves Rehoused := by
  intro w
  simp only [register, wp_bind, wp_get, wp_checked, wp_pure]
  refine ⟨?_, fun _ _ => Evolution.refl w⟩
  rintro ⟨id, registry, devices⟩ registered housed
  unfold Registry.register at registered
  split at registered
  · cases registered
  · split at registered
    · cases registered
    · rename_i d found
      split at registered
      · cases registered
      · cases registered
        exact (housed.withId found _).congr rfl rfl

/-! ## Operations of any device -/

theorem rehoused_allocate (key : DeviceKey) (params : AllocParams) :
    (allocate key params).Evolves Rehoused :=
  rehoused_onDevice key _ (Gpu.rehoused_allocate params) (Remote.speaks_allocate params)

theorem rehoused_deallocate (key : DeviceKey) (alloc : Allocation) :
    (deallocate key alloc).Evolves Rehoused :=
  rehoused_onDevice key _ (Gpu.rehoused_deallocate alloc)
    ((Remote.speaks_receive _).bind fun _ => Remote.speaks_update _)

theorem rehoused_readRange (key : DeviceKey) (range : Range) :
    (readRange key range).Evolves Rehoused :=
  rehoused_onDevice key _ (Gpu.rehoused_of_still (Gpu.still_readRange range))
    ((Remote.listens_readRange range).mono fun _ _ => Remote.Listens.contents)

theorem rehoused_writeRange (key : DeviceKey) (dst : Pointer) (data : Storage) :
    (writeRange key dst data).Evolves Rehoused :=
  rehoused_onDevice key _ (Gpu.rehoused_of_keepsRooms (Gpu.keepsRooms_writeRange dst data))
    (Remote.speaks_writeRange dst data)

/-- Waiting between devices keeps what waiting of each device keeps. -/
theorem evolves_syncWrite {R : World → World → Prop} [Evolution R]
    (waits : ∀ key call, (onDevice key (pure ()) Gpu.waitIdle (Remote.receive call)).Evolves R)
    (key : DeviceKey) (range : Range) (other : DeviceKey) :
    (syncWrite key range other).Evolves R :=
  (evolves_device other).bind fun _ => waits key _

theorem evolves_syncRead {R : World → World → Prop} [Evolution R]
    (waits : ∀ key call, (onDevice key (pure ()) Gpu.waitIdle (Remote.receive call)).Evolves R)
    (listens : ∀ key call, (onDevice key (pure ()) (pure ()) (Remote.receive call)).Evolves R)
    (key : DeviceKey) (range : Range) (other : DeviceKey) :
    (syncRead key range other).Evolves R := by
  refine (evolves_device other).bind fun o => (evolves_device key).bind fun d => ?_
  cases d with
  | gpu g => exact .ite (.pure _) (evolves_syncWrite waits _ _ _)
  | host | remote => exact listens key _

theorem rehoused_waiting (key : DeviceKey) (call : RemoteCall) {gpu : Action (Live Gpu) Unit}
    (still : gpu.Evolves Gpu.Still) :
    (onDevice key (pure ()) gpu (Remote.receive call)).Evolves Rehoused :=
  rehoused_onDevice key _ (Gpu.rehoused_of_still still) (Remote.speaks_receive call)

theorem rehoused_launchLocal (key : DeviceKey) (stream kernel : UInt32) (mapping : Mapping) :
    (launchLocal key stream kernel mapping).Evolves Rehoused :=
  rehoused_onDevice key _ (Gpu.rehoused_of_still (Gpu.still_launchLocal stream kernel mapping))
    ((Remote.speaks_receive _).bind fun _ => Remote.speaks_update _)

theorem rehoused_mapRange (key : DeviceKey) (start : Pointer) (size : UInt64) :
    (mapRange key start size).Evolves Rehoused :=
  rehoused_onDevice key _ (Gpu.rehoused_of_keepsRooms (Gpu.keepsRooms_mapRange start size))
    (.throw _)

theorem rehoused_unmap (key : DeviceKey) (alloc : Allocation) :
    (unmap key alloc).Evolves Rehoused :=
  rehoused_onDevice key _ (Gpu.rehoused_of_keepsRooms (Gpu.keepsRooms_unmap alloc)) (.throw _)

theorem rehoused_writeRegion (w : World) (key : DeviceKey) (region : MappedRegion) (offset : Nat)
    (data : Storage) : Rehoused w (w.writeRegion key region offset data) := by
  intro housed
  unfold writeRegion
  split
  · exact housed.other (Nat.le_refl _) fun g => Device.noConfusion
  · rename_i g found
    have step := Gpu.keepsRooms_writeRegion ⟨w.platform, g⟩ region offset data
    exact housed.gpu found step.rehoused
  · exact housed

theorem rehoused_waitStream (key : DeviceKey) (stream : UInt32) :
    (waitStream key stream).Evolves Rehoused := by
  refine rehoused_onDevice key _ (Gpu.rehoused_of_still ?_) (Remote.speaks_receive _)
  exact (Evolves.require _ _).bind fun _ => Gpu.framed_commandSync

end World

/-! ## Everything that is asked of a world -/

inductive WorldCall where
  /-- The world outside answers otherwise from now on. -/
  | script (answers : Script)
  | newRegistry (capacity : Nat)
  | addHost (memory : Nat)
  | addRemote (device : Remote)
  | createGpu (limits : Limits)
  | register (key : DeviceKey)
  | remove (key : DeviceKey)
  | allocate (key : DeviceKey) (params : AllocParams)
  | deallocate (key : DeviceKey) (alloc : Allocation)
  | mapRange (key : DeviceKey) (start : Pointer) (size : UInt64)
  | unmap (key : DeviceKey) (alloc : Allocation)
  | read (key : DeviceKey) (range : Range)
  | write (key : DeviceKey) (dst : Pointer) (data : Storage)
  | writeRegion (key : DeviceKey) (region : MappedRegion) (offset : Nat) (data : Storage)
  | barrier (key : DeviceKey) (range : Range)
  | syncWrite (key : DeviceKey) (range : Range) (other : DeviceKey)
  | syncRead (key : DeviceKey) (range : Range) (other : DeviceKey)
  | syncAll (key : DeviceKey)
  | transfer (key : DeviceKey) (dst : Pointer) (src : Range) (source : DeviceKey)
  | launch (key : DeviceKey) (stream kernel : UInt32) (mapping : Mapping)
  | launchLocal (key : DeviceKey) (stream kernel : UInt32) (mapping : Mapping)
  | waitStream (key : DeviceKey) (stream : UInt32)
  /-- Anything that a client who holds some lists asks of a graphics processor. -/
  | client (key : DeviceKey) (lists : List CommandList) (call : Call)

namespace WorldCall

open World

/-- A client's call to a graphics processor of the world. -/
def onClient (key : DeviceKey) (lists : List CommandList) (call : Call) : Action World Unit :=
  modify fun w =>
    match w.devices.get? key with
    | some (.gpu g) => w.keepLive key .gpu (call.step { live := ⟨w.platform, g⟩, lists }).2.live
    | _ => w

/-- The call as the world takes it; only its effect matters. -/
def run : WorldCall → Action World Unit
  | .script answers => modify fun w => { w with platform.script := answers }
  | .newRegistry capacity => modify fun w => { w with registry := { capacity } }
  | .addHost memory => discard (addDevice (.host { memory }))
  | .addRemote device => discard (addDevice (.remote device))
  | .createGpu limits => discard (World.createGpu limits)
  | .register key => discard (World.register key)
  | .remove key => modify fun w => { w with devices := w.devices.erase key }
  | .allocate key params => discard (World.allocate key params)
  | .deallocate key alloc => World.deallocate key alloc
  | .mapRange key start size => discard (World.mapRange key start size)
  | .unmap key alloc => World.unmap key alloc
  | .read key range => discard (World.readRange key range)
  | .write key dst data => World.writeRange key dst data
  | .writeRegion key region offset data => modify (·.writeRegion key region offset data)
  | .barrier key range => World.barrier key range
  | .syncWrite key range other => World.syncWrite key range other
  | .syncRead key range other => World.syncRead key range other
  | .syncAll key => World.syncAll key
  | .transfer key dst src source => World.transfer key dst src source
  | .launch key stream kernel mapping => World.launch key stream kernel mapping
  | .launchLocal key stream kernel mapping => World.launchLocal key stream kernel mapping
  | .waitStream key stream => World.waitStream key stream
  | .client key lists call => onClient key lists call

/-- The calls that bring something of the caller's own: a device, bytes for a mapped region, or
lists. -/
def brings : WorldCall → Bool
  | .addRemote _ | .writeRegion .. | .client .. => true
  | _ => false

/-- The calls that a registry or the life of a device is about. -/
def enrols : WorldCall → Bool
  | .newRegistry _ | .register _ | .remove _ => true
  | _ => false

end WorldCall

namespace World

/-- What a relation has to allow for the operations of devices to keep it. Transfers, launches and
waiting between devices are made of these. -/
structure OpSteps (R : World → World → Prop) : Prop where
  script : ∀ answers w, R w { w with platform.script := answers }
  addHost : ∀ memory, (addDevice (.host { memory })).Evolves R
  createGpu : ∀ limits, (createGpu limits).Evolves R
  allocate : ∀ key params, (allocate key params).Evolves R
  deallocate : ∀ key alloc, (deallocate key alloc).Evolves R
  mapRange : ∀ key start size, (mapRange key start size).Evolves R
  unmap : ∀ key alloc, (unmap key alloc).Evolves R
  readRange : ∀ key range, (readRange key range).Evolves R
  writeRange : ∀ key dst data, (writeRange key dst data).Evolves R
  copyWithin : ∀ key dst src, (onGpu key (Gpu.copyWithin dst src)).Evolves R
  listens : ∀ key call, (onDevice key (pure ()) (pure ()) (Remote.receive call)).Evolves R
  waits : ∀ key call, (onDevice key (pure ()) Gpu.waitIdle (Remote.receive call)).Evolves R
  launchLocal : ∀ key stream kernel mapping, (launchLocal key stream kernel mapping).Evolves R
  waitStream : ∀ key stream, (waitStream key stream).Evolves R

/-- What a relation has to allow for all other calls to keep it. -/
structure Steps (R : World → World → Prop) : Prop extends OpSteps R where
  newRegistry : ∀ capacity w, R w { w with registry := { capacity } }
  register : ∀ key, (register key).Evolves R
  remove : ∀ key w, R w { w with devices := w.devices.erase key }

namespace OpSteps

variable {R : World → World → Prop} [Evolution R]

theorem transfer (steps : OpSteps R) (key : DeviceKey) (dst : Pointer) (src : Range)
    (source : DeviceKey) : (transfer key dst src source).Evolves R := by
  have staged : (stage key dst src source).Evolves R :=
    (steps.readRange source src).bind fun _ => steps.writeRange key dst _
  refine (evolves_device key).bind fun d => ?_
  cases d with
  | gpu g => exact (steps.copyWithin key dst src).bind fun copied => .ite staged (.pure _)
  | host | remote => exact (Evolves.require _ _).bind fun _ => staged

theorem syncRead (steps : OpSteps R) (key : DeviceKey) (range : Range) (other : DeviceKey) :
    (syncRead key range other).Evolves R :=
  evolves_syncRead steps.waits steps.listens key range other

theorem launch (steps : OpSteps R) (key : DeviceKey) (stream kernel : UInt32)
    (mapping : Mapping) : (launch key stream kernel mapping).Evolves R := by
  have calls : (launchInterface key).Steps R :=
    { find := evolves_find
      localAlias := fun range => (evolves_device key).bind fun d => by cases d <;> exact .pure _
      allocate := steps.allocate key
      copyIn := fun dst src source => steps.transfer key dst src source
      syncLocal := fun range source => steps.syncRead key range source
      run := steps.launchLocal key
      copyOut := fun source dst src => steps.transfer source dst src key
      isAlias := fun pointer => (evolves_device key).bind fun d => by cases d <;> exact .pure _
      deallocate := steps.deallocate key
      syncSource := fun source range => steps.syncRead source range key }
  exact (evolves_device key).bind fun here => calls.launch here.id stream kernel mapping

end OpSteps

theorem rehoused_steps : Steps Rehoused where
  script _ _ housed := housed.widens (Nat.le_refl _)
  newRegistry _ _ housed := housed.congr rfl rfl
  addHost _ := rehoused_addDevice fun _ => Device.noConfusion
  createGpu := rehoused_createGpu
  register := rehoused_register
  remove key _ housed := housed.erase key
  allocate := rehoused_allocate
  deallocate := rehoused_deallocate
  mapRange := rehoused_mapRange
  unmap := rehoused_unmap
  readRange := rehoused_readRange
  writeRange := rehoused_writeRange
  copyWithin key dst src := rehoused_onDevice key _
    (Gpu.rehoused_of_keepsRooms (Gpu.keepsRooms_copyWithin dst src)) (.throw _)
  listens key call := rehoused_waiting key call (.pure _)
  waits key call := rehoused_waiting key call (Gpu.framed_wait none)
  launchLocal := rehoused_launchLocal
  waitStream := rehoused_waitStream

end World

namespace WorldCall

open World

theorem evolves_ops {R : World → World → Prop} [Evolution R] (steps : World.OpSteps R)
    (call : WorldCall) (own : call.brings = false) (operates : call.enrols = false) :
    call.run.Evolves R := by
  cases call with
  | addRemote | writeRegion | client => cases own
  | newRegistry | register | remove => cases operates
  | script answers => exact steps.script answers
  | addHost memory => exact (steps.addHost memory).discard
  | createGpu limits => exact (steps.createGpu limits).discard
  | allocate key params => exact (steps.allocate key params).discard
  | deallocate key alloc => exact steps.deallocate key alloc
  | mapRange key start size => exact (steps.mapRange key start size).discard
  | unmap key alloc => exact steps.unmap key alloc
  | read key range => exact (steps.readRange key range).discard
  | write key dst data => exact steps.writeRange key dst data
  | barrier key range => exact steps.listens key _
  | syncWrite key range other => exact evolves_syncWrite steps.waits key range other
  | syncRead key range other => exact steps.syncRead key range other
  | syncAll key => exact steps.waits key _
  | transfer key dst src source => exact steps.transfer key dst src source
  | launch key stream kernel mapping => exact steps.launch key stream kernel mapping
  | launchLocal key stream kernel mapping => exact steps.launchLocal key stream kernel mapping
  | waitStream key stream => exact steps.waitStream key stream

theorem evolves {R : World → World → Prop} [Evolution R] (steps : World.Steps R)
    (call : WorldCall) (own : call.brings = false) : call.run.Evolves R := by
  cases call with
  | newRegistry capacity => exact steps.newRegistry capacity
  | register key => exact (steps.register key).discard
  | remove key => exact steps.remove key
  | _ => exact evolves_ops steps.toOpSteps _ own rfl

theorem rehoused (call : WorldCall) : call.run.Evolves Rehoused := by
  cases call with
  | addRemote device => exact (rehoused_addDevice fun g => Device.noConfusion).discard
  | writeRegion key region offset data =>
    exact fun w => w.rehoused_writeRegion key region offset data
  | client key lists call =>
    intro w housed
    dsimp only
    split
    · rename_i g found
      exact housed.gpu found (call.rehoused { live := ⟨w.platform, g⟩, lists })
    · exact housed
  | _ => exact evolves rehoused_steps _ rfl

end WorldCall

namespace World

/-- What can come of a world in which nothing was asked yet. -/
inductive Reachable : World → Prop where
  | new : Reachable {}
  | step {w : World} (call : WorldCall) (before : Reachable w) :
    Reachable (call.run.outcome w).2

/-- What the calls make of a world. -/
def after (w : World) (calls : List WorldCall) : World :=
  calls.foldl (fun w call => (call.run.outcome w).2) w

theorem Reachable.after {w : World} (reachable : w.Reachable) (calls : List WorldCall) :
    (w.after calls).Reachable := by
  induction calls generalizing w with
  | nil => exact reachable
  | cons call calls ih => exact ih (.step call reachable)

theorem Reachable.housed {w : World} (reachable : w.Reachable) : w.Housed := by
  induction reachable with
  | new => exact ⟨nofun, nofun⟩
  | step call _ housed => exact call.rehoused.outcome _ housed

end World

end DeviceLayer
