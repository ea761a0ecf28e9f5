import DeviceLayer.Proofs.FittingCalls
import DeviceLayer.Proofs.Handles

/-!
# Worlds that ask for what fits

Devices of a world share the platform, but what one of them does to native buffers leaves all of
them as long as they were. So a world fits if each of its devices does, and a call to one device can
be looked at by itself.

* `Host.Sized`, `Remote.Sized` — bytes that the host or a remote device keeps are an object each.
* `Device.Fit`, `World.Fit` — all allocations have room where they are.
* `World.Asks`, `World.asks_steps` — calls keep that, and ask the queue for no more than what fits.
-/

namespace DeviceLayer

open DeviceLayer.Action

/-! ## Host memory -/

namespace Host

/-- No block is larger than an object may be. -/
structure Sized (h : Host) : Prop where
  each : ∀ {id b}, h.blocks.get? id = some b → b.bytes.size ≤ maxObject

def StaysSized (h h' : Host) : Prop := h.Sized → h'.Sized

instance : Frame StaysSized where
  refl _ sized := sized
  trans first second := second ∘ first
  patches found same := by
    refine fun sized => ⟨fun held => ?_⟩
    rcases SortedMap.get?_of_insert held with ⟨-, rfl⟩ | before
    · rw [same]
      exact sized.each found
    · exact sized.each before

theorem staysSized_allocate (params : AllocParams) : (allocate params).Evolves StaysSized := by
  intro h
  have same : StaysSized h h := Evolution.refl h
  simp only [allocate, wp_bind, wp_checked, wp_get, wp_check, wp_set, wp_pure]
  refine ⟨fun _ served => ⟨fun _ _ sized => ⟨fun held => ?_⟩, fun _ _ => same⟩, fun _ _ => same⟩
  rcases SortedMap.get?_of_insert held with ⟨-, rfl⟩ | before
  · unfold checkBlock at served
    split at served
    · cases served
    · rw [Storage.size_zeros]
      omega
  · exact sized.each before

theorem staysSized_deallocate (alloc : Allocation) :
    (deallocate alloc).Evolves StaysSized := by
  intro h
  rw [deallocate, wp_bind, wp_discard]
  refine (wp_block alloc h).mono ?_ ?_
  · rintro b t ⟨rfl, -⟩ sized
    exact ⟨fun held => sized.each (SortedMap.get?_of_erase held)⟩
  · rintro e t rfl
    exact Evolution.refl t

/-- Whether a region of a block is mapped. -/
def maps (h : Host) (region : MappedRegion) : Bool :=
  match h.blocks.get? region.allocId with
  | some b => b.mapped && region.offset + region.length ≤ b.bytes.size
  | none => false

theorem staysSized_writeRegion {h : Host} {region : MappedRegion} {offset : Nat} {data : Storage}
    (mapped : h.maps region = true) (inside : offset + data.size ≤ region.length) :
    StaysSized h (h.writeRegion region offset data) := by
  unfold maps at mapped
  unfold writeRegion
  cases found : h.blocks.get? region.allocId with
  | none => exact Evolution.refl h
  | some b =>
    simp only [found, Bool.and_eq_true, decide_eq_true_eq] at mapped
    apply Frame.patches (R := StaysSized) found
    apply Storage.size_splice
    omega

end Host

/-! ## Devices behind a transport -/

namespace Remote

structure Sized (r : Remote) : Prop where
  each : ∀ {id bytes}, r.allocations.get? id = some bytes → bytes.size ≤ maxObject

theorem Sized.put {r : Remote} (sized : r.Sized) {id : UInt32} {bytes : Storage}
    (small : bytes.size ≤ maxObject) : (r.putBytes id bytes).Sized := by
  refine ⟨fun held => ?_⟩
  rcases SortedMap.get?_of_insert held with ⟨-, rfl⟩ | before
  · exact small
  · exact sized.each before

/-- Bytes may be replaced within what is there. -/
theorem Sized.patched {r : Remote} (sized : r.Sized) {start : Pointer} {data bytes : Storage}
    (window : r.window? start data.size = .ok bytes) :
    (r.putBytes start.allocId (bytes.splice start.offset.toNat data)).Sized := by
  obtain ⟨found, inside⟩ := window?_eq_ok window
  apply sized.put
  rw [Storage.size_splice inside]
  exact sized.each found

theorem Sized.added {r : Remote} (sized : r.Sized) (amount : UInt8) (range : Range) :
    (r.addToRange amount range).Sized := by
  unfold addToRange
  split
  · exact sized
  · rename_i bytes window
    apply sized.patched
    rw [Storage.size_map, Storage.size_slice (window?_eq_ok window).2]
    exact window

/-- The bytes that are kept stay an object each, and no native buffer is asked for. -/
def Asks (s t : Live Remote) : Prop :=
  s.device.Sized → t.device.Sized ∧ s.platform.Asks t.platform

instance : Evolution Asks where
  refl _ sized := ⟨sized, Evolution.refl _⟩
  trans := Platform.Asks.carry

theorem asks_receive (call : RemoteCall) : (receive call).Evolves Asks := by
  refine Live.evolves_self.bind fun r => .bind (Live.evolves_record fun s => ?_) fun _ => ?_
  · intro sized
    refine ⟨sized, .of_lasts (Evolution.refl _) ?_⟩
    simp [Platform.asked, Platform.record, Event.queues]
  · exact .ite (.throw _) (.pure _)

theorem asks_update {f : Remote → Remote} (keeps : ∀ r : Remote, r.Sized → (f r).Sized) :
    (Live.update f).Evolves Asks :=
  Live.evolves_update fun _ sized => ⟨keeps _ sized, Evolution.refl _⟩

theorem asks_allocate (params : AllocParams) : (allocate params).Evolves Asks := by
  refine (asks_receive _).bind fun _ => fun s => ?_
  have same : Asks s s := Evolution.refl s
  simp only [wp_bind, wp_assert, Live.wp_self, wp_check, Live.wp_update, wp_pure,
    decide_eq_true_eq]
  refine ⟨fun small => ⟨fun taken _ sized => ?_, fun _ _ => same⟩, fun _ => same⟩
  have sized : Sized { s.device with nextAlloc := taken.2 } := ⟨sized.each⟩
  refine ⟨sized.put ?_, Evolution.refl _⟩
  rwa [Storage.size_zeros]

theorem asks_deallocate (alloc : Allocation) : (deallocate alloc).Evolves Asks := by
  refine (asks_receive _).bind fun _ => asks_update fun r sized => ⟨fun held => ?_⟩
  exact sized.each (SortedMap.get?_of_erase held)

theorem asks_readRange (range : Range) : (readRange range).Evolves Asks :=
  (asks_receive _).bind fun _ => Live.evolves_self.bind fun _ =>
    (Evolves.checked _).bind fun _ => .pure _

theorem asks_writeRange (dst : Pointer) (data : Storage) : (writeRange dst data).Evolves Asks := by
  refine (asks_receive _).bind fun _ => fun s => ?_
  simp only [wp_bind, Live.wp_self, wp_checked, Live.wp_update]
  refine ⟨fun bytes window sized => ?_, fun _ _ => Evolution.refl s⟩
  exact ⟨sized.patched window, Evolution.refl _⟩

theorem asks_launch (stream kernel : UInt32) (mapping : Mapping) :
    (launch stream kernel mapping).Evolves Asks := by
  refine (asks_receive _).bind fun _ => asks_update fun r sized => ?_
  exact List.foldlRecOn _ _ sized fun _ sized e _ => sized.added _ e.2

end Remote

/-! ## Worlds -/

namespace Device

def Fit (p : Platform) : Device → Prop
  | .host h => h.Sized
  | .gpu g => Gpu.Fit ⟨p, g⟩
  | .remote r => r.Sized

variable {p q : Platform} {d : Device}

theorem Fit.lasts (h : d.Fit p) (lasts : p.contents.Lasts q.contents) : d.Fit q := by
  cases d with
  | host | remote => exact h
  | gpu g => exact Gpu.Fit.lasts (s := ⟨p, g⟩) h lasts

theorem Fit.withId (h : d.Fit p) (id : DeviceId) : (d.withId id).Fit p := by
  cases d with
  | host => exact ⟨h.each⟩
  | gpu => exact ⟨h.limit, h.backed⟩
  | remote => exact ⟨h.each⟩

end Device

namespace World

structure Fit (w : World) : Prop where
  each : ∀ {key d}, w.devices.get? key = some d → d.Fit w.platform

/-- A world where all fits is one where all fits still, and has asked the queue for no more. -/
def Asks (w w' : World) : Prop := w.Fit → w'.Fit ∧ w.platform.Asks w'.platform

instance : Evolution Asks where
  refl _ fit := ⟨fit, Evolution.refl _⟩
  trans := Platform.Asks.carry

variable {α : Type} {key : DeviceKey} {w w' : World} {d : Device} {p : Platform}

theorem asks_of_fewer
    (fewer : ∀ {key d}, w'.devices.get? key = some d → w.devices.get? key = some d)
    (asks : w.platform.Asks w'.platform) : w.Asks w' := by
  intro fit
  exact ⟨⟨fun found => (fit.each (fewer found)).lasts asks.lasts⟩, asks⟩

/-- One device may be replaced, or be new; to all others only their native buffers matter. -/
theorem Fit.put (fit : w.Fit) (new : d.Fit p) (asks : w.platform.Asks p) :
    (w.put key d p).Fit ∧ w.platform.Asks p := by
  refine ⟨⟨fun found => ?_⟩, asks⟩
  rcases SortedMap.get?_of_insert found with ⟨-, rfl⟩ | other
  · exact new
  · exact (fit.each other).lasts asks.lasts

theorem asks_onDevice (key : DeviceKey) {host : Action Host α} {gpu : Action (Live Gpu) α}
    {remote : Action (Live Remote) α} (onHost : host.Evolves Host.StaysSized)
    (onGpu : gpu.Evolves Gpu.Asks) (onRemote : remote.Evolves Remote.Asks) :
    (onDevice key host gpu remote).Evolves Asks := by
  refine evolves_onDevice onHost onGpu onRemote ?_ ?_ ?_
  · intro w h h' found step fit
    exact fit.put (step (fit.each found)) (Evolution.refl w.platform)
  · intro w g s found step fit
    obtain ⟨fit', asks⟩ := step (fit.each found)
    exact fit.put fit' asks
  · intro w r s found step fit
    obtain ⟨sized, asks⟩ := step (fit.each found)
    exact fit.put sized asks

theorem asks_addDevice (new : d.Fit w.platform) :
    (addDevice d).wp (fun _ w' => w.Asks w') (fun _ w' => w.Asks w') w := by
  intro fit
  have placed : (w.put w.nextKey d w.platform).Fit := (fit.put new (Evolution.refl w.platform)).1
  exact ⟨⟨placed.each⟩, Evolution.refl w.platform⟩

/-- Whether a device has a region mapped for the host. -/
def maps (w : World) (key : DeviceKey) (region : MappedRegion) : Bool :=
  match w.devices.get? key with
  | some (.host h) => h.maps region
  | some (.gpu g) => g.maps region
  | _ => false

/-- The host writes no further than the region goes that was mapped for it. -/
theorem asks_writeRegion {region : MappedRegion} {offset : Nat} {data : Storage}
    (mapped : w.maps key region = true) (inside : offset + data.size ≤ region.length) :
    w.Asks (w.writeRegion key region offset data) := by
  intro fit
  have same : w.platform.Asks w.platform := Evolution.refl w.platform
  cases found : w.devices.get? key with
  | none => simp [maps, found] at mapped
  | some d =>
    cases d with
    | host h =>
      simp only [maps, found] at mapped
      simp only [writeRegion, found]
      have new : (Device.host (h.writeRegion region offset data)).Fit w.platform :=
        Host.staysSized_writeRegion mapped inside (fit.each found)
      exact fit.put new same
    | gpu g =>
      simp only [maps, found] at mapped
      simp only [writeRegion, found]
      have step := Gpu.asks_writeRegion ⟨w.platform, g⟩ mapped inside
      have new : (Device.gpu (g.writeRegion region offset data)).Fit w.platform :=
        (step (fit.each found)).1
      exact fit.put new same
    | remote => simp [maps, found] at mapped

theorem asks_register (key : DeviceKey) : (register key).Evolves Asks := by
  intro w
  simp only [register, wp_bind, wp_get, wp_checked, wp_pure]
  refine ⟨?_, fun _ _ => Evolution.refl w⟩
  rintro ⟨id, registry, devices⟩ registered fit
  unfold Registry.register at registered
  split at registered
  · cases registered
  · split at registered
    · cases registered
    · rename_i d found
      split at registered
      · cases registered
      · cases registered
        have named := (fit.each found).withId ⟨UInt32.ofNat w.registry.size⟩
        obtain ⟨placed, asks⟩ := fit.put named (Evolution.refl w.platform)
        exact ⟨⟨placed.each⟩, asks⟩

end World

/-! ## Bringing devices up -/

/-- A device on an adapter that serves whatever is asked for. -/
def Gpu.bringUp (limits : Limits) : Action Platform Gpu := do
  let connection ← modifyGet (Platform.connect limits)
  let placeholder ← Platform.createBuffer connection .placeholder placeholderSize
  pure { connection, adapter := (← get).script.adapterType, placeholder }

theorem Gpu.create_eq (limits : Limits) :
    create limits = (do
      if !(← get).script.adapter.serves limits then throw (.setup .deviceRefused)
      bringUp limits) := rfl

theorem Gpu.wp_bringUp (limits : Limits) (p : Platform) :
    (bringUp limits).wp
      (fun g q => g.buffers = ∅ ∧ g.limits = limits ∧ p.Asks q) (fun _ q => p.Asks q) p := by
  simp only [bringUp, wp_bind, wp_modifyGet, Platform.wp_createBuffer, wp_get, wp_pure]
  have connected : p.Asks (p.connect limits).2 := .of_lasts (Evolution.refl _) rfl
  refine ⟨fun _ => ⟨trivial, rfl, ?_⟩, fun _ => connected⟩
  exact Evolution.trans connected (Platform.asks_makeBuffer _ _ _ _)

namespace World

def bringUp (limits : Limits) : Action World DeviceKey := do
  let g ← (Gpu.bringUp limits).within (·.platform) fun p w => { w with platform := p }
  addDevice (.gpu g)

theorem asks_bringUp {limits : Limits} (fit : limits.Fit) : (bringUp limits).Evolves Asks := by
  intro w
  have opened {p : Platform} (asks : w.platform.Asks p) : w.Asks { w with platform := p } :=
    asks_of_fewer (fun found => found) asks
  simp only [bringUp, wp_bind, wp_within]
  refine (Gpu.wp_bringUp limits w.platform).mono ?_ fun _ _ => opened
  rintro g p ⟨empty, rfl, asks⟩
  have new : (Device.gpu g).Fit p := by
    refine ⟨fit, fun held => ?_⟩
    rw [empty] at held
    cases held
  have added := asks_addDevice (w := { w with platform := p }) new
  exact added.mono (fun _ _ => Evolution.trans (opened asks))
    fun _ _ => Evolution.trans (opened asks)

theorem asks_createGpu (limits : Limits) : (createGpu limits).Evolves Asks := by
  intro w
  rw [createGpu, Gpu.create_eq]
  simp only [wp_bind, wp_within, wp_get, wp_ite, wp_throw]
  refine ⟨fun _ => Evolution.refl w, fun served => ?_⟩
  have fit := Adapter.fit_of_serves (by simpa using served)
  have up := asks_bringUp fit w
  simpa only [bringUp, wp_bind, wp_within] using up

/-! ## Calls -/

theorem asks_waiting (key : DeviceKey) (call : RemoteCall) {gpu : Action (Live Gpu) Unit}
    (asks : gpu.Evolves Gpu.Asks) :
    (onDevice key (pure ()) gpu (Remote.receive call)).Evolves Asks :=
  asks_onDevice key (.pure _) asks (Remote.asks_receive call)

theorem asks_steps : Steps Asks where
  script _ _ := asks_of_fewer (fun found => found) (.of_lasts (Evolution.refl _) rfl)
  newRegistry _ _ := asks_of_fewer (fun found => found) (Evolution.refl _)
  addHost _ _ := asks_addDevice ⟨nofun⟩
  createGpu := asks_createGpu
  register := asks_register
  remove _ _ := asks_of_fewer SortedMap.get?_of_erase (Evolution.refl _)
  allocate key params := asks_onDevice key (Host.staysSized_allocate params)
    (Gpu.asks_allocate params) (Remote.asks_allocate params)
  deallocate key alloc := asks_onDevice key (Host.staysSized_deallocate alloc)
    (Gpu.asks_deallocate alloc) (Remote.asks_deallocate alloc)
  mapRange key start size := asks_onDevice key (Host.evolves_mapRange start size)
    (Gpu.asks_mapRange start size) (.throw _)
  unmap key alloc := asks_onDevice key (Host.evolves_unmap alloc) (Gpu.asks_unmap alloc)
    (.throw _)
  readRange key range := asks_onDevice key (Host.evolves_readRange range)
    (Gpu.asks_readRange range) (Remote.asks_readRange range)
  writeRange key dst data := asks_onDevice key (Host.evolves_writeRange dst data)
    (Gpu.asks_writeRange dst data) (Remote.asks_writeRange dst data)
  copyWithin key dst src := asks_onDevice key (.throw _) (Gpu.asks_copyWithin dst src) (.throw _)
  listens key call := asks_waiting key call (.pure _)
  waits key call := asks_waiting key call (Gpu.framed_wait none)
  launchLocal key stream kernel mapping := asks_onDevice key (.throw _)
    (Gpu.asks_launchLocal stream kernel mapping) (Remote.asks_launch stream kernel mapping)
  waitStream key _ := asks_onDevice key (.throw _)
    ((Evolves.require _ _).bind fun _ => Gpu.framed_commandSync) (Remote.asks_receive _)

end World

end DeviceLayer
