import DeviceLayer.Proofs.Exchange

/-!
# What failed memory calls leave behind

A call to the memory of a graphics processor may fail because it breaks a rule, or because the
platform does not answer. All that it changes it changes at its very end, when nothing can fail any
more, so a failure leaves all devices as they were. Unmapping is the exception: it ends the mapping
first and copies back what the host has written after that. If copying fails, what was written is
lost.

* `Gpu.Untouched`, `World.Untouched` — devices are the same and their native buffers hold the same.
* `MemoryRequest` — the memory calls of a device, with transfers from other devices.
* `World.memory_failures` — what each of them leaves when it fails.
* `World.unmap_loses_writes` — a mapping that is gone, with what the host wrote.
-/

namespace DeviceLayer

open DeviceLayer.Action

theorem Platform.writeBuffer_spares (b : Buffer) (offset : Nat) (data : Storage) :
    (writeBuffer b offset data).Spares Extends := by
  have write (offset : Nat) (data : Storage) :
      (modify (queueWrite b offset data) : Action Platform Unit).Spares Extends := fun _ => trivial
  unfold writeBuffer
  split
  · exact .pure _
  · refine .after (.check _) fun past => .after (evolves_checkBounds _ _ _) fun _ => ?_
    exact .ite (write _ _) (.after (extends_readBuffer _ _ _) fun _ => write _ _)

namespace Gpu

/-- The device is the same, and native buffers hold what they held. -/
structure Untouched (s t : Live Gpu) : Prop where
  device : t.device = s.device
  platform : s.platform.Extends t.platform

instance : Evolution Untouched where
  refl s := ⟨rfl, Evolution.refl s.platform⟩
  trans first second :=
    ⟨second.device.trans first.device, Evolution.trans first.platform second.platform⟩

theorem allocate_spares (params : AllocParams) : (allocate params).Spares Untouched := by
  intro s
  have same : Untouched s s := Evolution.refl s
  have made (c : Connection) (purpose : BufferPurpose) (n : Nat) :
      Untouched s { s with platform := (s.platform.makeBuffer c purpose n).2 } :=
    ⟨rfl, (Platform.makes_makeBuffer c purpose n s.platform).extends⟩
  simp only [allocate, registeredId, takeAllocId, putBuffer, exhausted, wp_bind,
    Live.wp_self, wp_require, wp_pure]
  refine ⟨fun _ => (wp_ite _ _).2 ⟨fun _ => same, fun _ => ?_⟩, fun _ => same⟩
  simp only [wp_bind, wp_check, wp_attempt, Platform.wp_createBuffer, Live.wp_self, Live.wp_update,
    wp_pure]
  exact ⟨fun size _ => ⟨fun _ => ⟨fun _ _ => trivial, fun _ _ => made _ _ _⟩, fun _ => same⟩,
    fun _ _ => same⟩

theorem deallocate_spares (alloc : Allocation) : (deallocate alloc).Spares Untouched := by
  intro s
  refine (wp_deallocate alloc s).mono (fun _ _ _ => trivial) ?_
  rintro e _ rfl
  exact Evolution.refl _

theorem mapRange_spares (pointer : Pointer) (size : UInt64) :
    (mapRange pointer size).Spares Untouched := by
  refine .after (evolves_checkedRange _ _) fun (buffer, length) => ?_
  refine .after (evolves_allocation _) fun a => .after (.require _ _) fun _ => ?_
  refine .after (.require _ _) fun _ => .after ?_ fun shadow => fun _ => trivial
  exact Live.evolves_onPlatform (Platform.extends_readBuffer _ _ _) fun _ _ step => ⟨rfl, step⟩

theorem untouched_readRange (range : Range) : (readRange range).Evolves Untouched :=
  (evolves_checkedRange _ _).bind fun _ =>
    Live.evolves_onPlatform (Platform.extends_readBuffer _ _ _) fun _ _ step => ⟨rfl, step⟩

theorem writeRange_spares (dst : Pointer) (data : Storage) :
    (writeRange dst data).Spares Untouched :=
  .after (evolves_checkedRange _ _) fun _ =>
    (Platform.writeBuffer_spares _ _ _).within fun _ _ step => ⟨rfl, step⟩

theorem copyWithin_copies (dst : Pointer) (src : Range) (s : Live Gpu) :
    (copyWithin dst src).wp (fun copied t => copied = false → t = s) (fun _ t => t = s) s := by
  refine wp_lookUp (evolves_checkLocal _) (fun _ => ?_) fun _ => rfl
  refine wp_lookUp evolves_self (fun g => (wp_ite _ _).2 ⟨fun _ _ => rfl, fun _ => ?_⟩) fun _ => rfl
  refine wp_lookUp (evolves_checkedRange _ _) (fun source => ?_) fun _ => rfl
  refine wp_lookUp (evolves_checkedRange _ _) (fun target => ?_) fun _ => rfl
  exact (wp_ite _ _).2 ⟨fun _ => nofun, fun _ _ => rfl⟩

def unmapped (g : Gpu) (id : UInt32) : Gpu :=
  match g.buffers.get? id with
  | some a => { g with buffers := g.buffers.insert id { a with mapping := none } }
  | none => g

theorem unmapped_of_none {g : Gpu} {id : UInt32} (none : g.buffers.get? id = none) :
    g.unmapped id = g := by
  simp only [unmapped, none]

theorem unmapped_of_some {g : Gpu} {id : UInt32} {a : BufferAllocation}
    (found : g.buffers.get? id = some a) :
    g.unmapped id = { g with buffers := g.buffers.insert id { a with mapping := none } } := by
  simp only [unmapped, found]

theorem unmapped_of_not_mapped {g : Gpu} {id : UInt32} {a : BufferAllocation}
    (found : g.buffers.get? id = some a) (free : a.mapping = none) : g.unmapped id = g := by
  have same : { a with mapping := none } = a := by rw [← free]
  rw [unmapped_of_some found, same, SortedMap.insert_eq_self found]

/-- The device that unmapping leaves when it fails: an allocation of its own is not mapped any
more. -/
theorem unmap_leaves (alloc : Allocation) (s : Live Gpu) :
    (unmap alloc).wp (fun _ _ => True)
      (fun _ t => t.device =
          (if alloc.device = s.device.id then s.device.unmapped alloc.id else s.device) ∧
        s.platform.Extends t.platform) s := by
  have same : s.platform.Extends s.platform := Evolution.refl _
  simp only [unmap, resolve, checkLocal, allocation, wp_bind, Live.wp_self, wp_require, wp_orRefuse,
    putBuffer, Live.wp_update, decide_eq_true_eq, decide_eq_false_iff_not]
  refine ⟨fun here => ?_, fun there => ⟨(if_neg there).symm, same⟩⟩
  have here : alloc.device = s.device.id := here
  simp only [if_pos here]
  refine ⟨fun a found => ⟨fun mapping _ => ?_, fun free => ?_⟩, fun missing => ?_⟩
  · -- By now the mapping is taken out, and the bytes that the host wrote are still to be copied.
    refine (wp_ite _ _).2 ⟨fun _ => ?_, fun _ => trivial⟩
    refine (Live.wp_onPlatform _).2 ((Platform.writeBuffer_spares _ _ _ _).mono ?_ ?_)
    · exact fun _ _ _ => trivial
    · exact fun _ _ left => ⟨(unmapped_of_some found).symm, left⟩
  · exact ⟨(unmapped_of_not_mapped found free).symm, same⟩
  · exact ⟨(unmapped_of_none missing).symm, same⟩

end Gpu

/-! ## Other kinds of devices -/

theorem Host.writeRange_spares (dst : Pointer) (data : Storage) :
    (writeRange dst data).Spares Eq := by
  refine .after (fun h => ?_) fun b => .after (.checked _) fun _ => fun _ => trivial
  refine (wp_block dst.allocation h).mono ?_ ?_
  · rintro b t ⟨rfl, -⟩
    rfl
  · rintro e t rfl
    rfl

theorem Remote.writeRange_spares (dst : Pointer) (data : Storage) :
    (writeRange dst data).Spares Listens :=
  .after (listens_receive _) fun _ => .after Live.evolves_self fun _ =>
    .after (.checked _) fun _ => fun _ => trivial

/-! ## Requests to a device of the world -/

inductive MemoryRequest where
  | allocate (params : AllocParams)
  | deallocate (alloc : Allocation)
  | map (alloc : Allocation)
  | mapRange (start : Pointer) (size : UInt64)
  | unmap (alloc : Allocation)
  | readRange (range : Range)
  | writeRange (dst : Pointer) (data : Storage)
  /-- Copies a range of the device `source`. -/
  | transfer (dst : Pointer) (src : Range) (source : DeviceKey)

namespace MemoryRequest

/-- The request as the device takes it; only its effect matters. -/
def run (key : DeviceKey) : MemoryRequest → Action World Unit
  | .allocate params => discard (World.allocate key params)
  | .deallocate alloc => World.deallocate key alloc
  | .map alloc => discard (World.map key alloc)
  | .mapRange start size => discard (World.mapRange key start size)
  | .unmap alloc => World.unmap key alloc
  | .readRange range => discard (World.readRange key range)
  | .writeRange dst data => World.writeRange key dst data
  | .transfer dst src source => World.transfer key dst src source

/-- The allocation that a request is to unmap, if it is mapped. -/
def unmaps? (g : Gpu) : MemoryRequest → Option (UInt32 × BufferAllocation)
  | .unmap alloc =>
    if alloc.device = g.id then
      ((g.buffers.get? alloc.id).filter (·.mapping.isSome)).map fun a => (alloc.id, a)
    else none
  | _ => none

end MemoryRequest

namespace World

structure Untouched (w w' : World) : Prop where
  devices : w'.devices = w.devices
  platform : w.platform.Extends w'.platform

instance : Evolution Untouched where
  refl w := ⟨rfl, Evolution.refl w.platform⟩
  trans first second :=
    ⟨second.devices.trans first.devices, Evolution.trans first.platform second.platform⟩

variable {α : Type} {key : DeviceKey} {w : World}

theorem Untouched.put {d : Device} {p : Platform} (found : w.devices.get? key = some d)
    (platform : w.platform.Extends p) : Untouched w (w.put key d p) :=
  ⟨SortedMap.insert_eq_self found, platform⟩

/-- Looking at the memory of a device, of whatever kind, leaves all devices as they are. -/
theorem untouched_readRange (key : DeviceKey) (range : Range) :
    (readRange key range).Evolves Untouched := by
  refine evolves_onDevice (H := Eq) (Host.evolves_readRange range) (Gpu.untouched_readRange range)
    (Remote.listens_readRange range) ?_ ?_ ?_
  · rintro w host _ found rfl
    exact .put found (Evolution.refl w.platform)
  · rintro w g ⟨p, _⟩ found ⟨rfl, platform⟩
    exact .put found platform
  · rintro w remote ⟨p, _⟩ found ⟨rfl, contents⟩
    exact .put found (.of_contents contents)

theorem onGpu_spares {g : Gpu} (found : w.devices.get? key = some (.gpu g)) {host : Action Host α}
    {gpu : Action (Live Gpu) α} {remote : Action (Live Remote) α}
    (spares : gpu.Spares Gpu.Untouched) :
    (onDevice key host gpu remote).wp (fun _ _ => True) (fun _ w' => Untouched w w') w := by
  rw [wp_onDevice, found]
  refine (spares ⟨w.platform, g⟩).mono (fun _ _ _ => trivial) ?_
  rintro e ⟨p, _⟩ ⟨rfl, platform⟩
  exact .put found platform

/-- A write, on a device of whatever kind, changes nothing before the bytes are in their place. -/
theorem writeRange_spares (key : DeviceKey) (dst : Pointer) (data : Storage) :
    (writeRange key dst data).Spares Untouched := by
  intro w
  cases found : w.devices.get? key with
  | none =>
    rw [writeRange, wp_onDevice, found]
    exact Evolution.refl w
  | some d =>
    cases d with
    | gpu g => exact onGpu_spares found (Gpu.writeRange_spares dst data)
    | host host =>
      rw [writeRange, wp_onDevice, found]
      refine (Host.writeRange_spares dst data host).mono (fun _ _ _ => trivial) ?_
      rintro e _ rfl
      exact .put found (Evolution.refl w.platform)
    | remote remote =>
      rw [writeRange, wp_onDevice, found]
      refine (Remote.writeRange_spares dst data ⟨w.platform, remote⟩).mono
        (fun _ _ _ => trivial) ?_
      rintro e ⟨p, _⟩ ⟨rfl, contents⟩
      exact .put found (.of_contents contents)

theorem stage_spares (key : DeviceKey) (dst : Pointer) (src : Range) (source : DeviceKey) :
    (stage key dst src source).Spares Untouched :=
  .after (untouched_readRange source src) fun bytes => writeRange_spares key dst bytes

theorem transfer_spares (key : DeviceKey) (dst : Pointer) (src : Range) (source : DeviceKey) :
    (transfer key dst src source).Spares Untouched := by
  refine .after (evolves_device key) fun d => ?_
  cases d with
  | host | remote => exact .after (.require _ _) fun _ => stage_spares key dst src source
  | gpu _ =>
    intro w
    rw [wp_bind, onGpu, wp_onDevice]
    cases found : w.devices.get? key with
    | none => exact Evolution.refl w
    | some d =>
      cases d with
      | host | remote => exact .put found (Evolution.refl w.platform)
      | gpu g =>
        refine (Gpu.copyWithin_copies dst src ⟨w.platform, g⟩).mono ?_ ?_
        · rintro copied t same
          refine (wp_ite _ _).2 ⟨fun staged => ?_, fun _ => trivial⟩
          obtain rfl := same (by simpa using staged)
          rw [put_self found]
          exact stage_spares key dst src source w
        · rintro e _ rfl
          exact .put found (Evolution.refl w.platform)

/-- A failed unmapping ends the mapping that there was, and nothing else. -/
theorem unmap_spares {g : Gpu} (found : w.devices.get? key = some (.gpu g)) (alloc : Allocation) :
    (unmap key alloc).wp (fun _ _ => True)
      (fun _ w' => w.platform.Extends w'.platform ∧ w'.devices = w.devices.insert key
        (.gpu (if alloc.device = g.id then g.unmapped alloc.id else g))) w := by
  rw [unmap, wp_onDevice, found]
  refine (Gpu.unmap_leaves alloc ⟨w.platform, g⟩).mono (fun _ _ _ => trivial) ?_
  rintro e t ⟨device, platform⟩
  exact ⟨platform, by rw [← device]; rfl⟩

end World

/-- The devices that a request leaves when it fails. -/
def MemoryRequest.leaves (key : DeviceKey) (g : Gpu) (devices : Devices)
    (request : MemoryRequest) : Devices :=
  match request.unmaps? g with
  | none => devices
  | some (id, a) =>
    devices.insert key
      (.gpu { g with buffers := g.buffers.insert id { a with mapping := none } })

theorem MemoryRequest.leaves_unmap {w : World} {key : DeviceKey} {g : Gpu}
    (found : w.devices.get? key = some (.gpu g)) (alloc : Allocation) :
    leaves key g w.devices (.unmap alloc) =
      w.devices.insert key (.gpu (if alloc.device = g.id then g.unmapped alloc.id else g)) := by
  have same : w.devices.insert key (.gpu g) = w.devices := SortedMap.insert_eq_self found
  by_cases here : alloc.device = g.id
  · simp only [leaves, unmaps?, if_pos here]
    cases held : g.buffers.get? alloc.id with
    | none => simp [Gpu.unmapped_of_none held, same]
    | some a =>
      cases mapped : a.mapping with
      | none =>
        simp [Option.filter_some, mapped, Gpu.unmapped_of_not_mapped held mapped, same]
      | some m => simp [Option.filter_some, mapped, Gpu.unmapped_of_some held]
  · simp only [leaves, unmaps?, if_neg here, same]

theorem MemoryRequest.spares {w : World} {key : DeviceKey} {g : Gpu}
    (found : w.devices.get? key = some (.gpu g)) (request : MemoryRequest) :
    (request.run key).wp (fun _ _ => True)
      (fun _ w' => w.platform.Extends w'.platform ∧ w'.devices = request.leaves key g w.devices)
      w := by
  open World in
  have untouched {a : Action World Unit}
      (h : a.wp (fun _ _ => True) (fun _ w' => Untouched w w') w) :
      a.wp (fun _ _ => True)
        (fun _ w' => w.platform.Extends w'.platform ∧ w'.devices = w.devices) w :=
    h.mono (fun _ _ _ => trivial) fun _ _ same => ⟨same.platform, same.devices⟩
  cases request with
  | allocate params =>
    exact untouched ((wp_discard _).2 (onGpu_spares found (Gpu.allocate_spares params)))
  | deallocate alloc => exact untouched (onGpu_spares found (Gpu.deallocate_spares alloc))
  | map alloc => exact untouched ((wp_discard _).2 (onGpu_spares found (Gpu.mapRange_spares _ _)))
  | mapRange start size =>
    exact untouched ((wp_discard _).2 (onGpu_spares found (Gpu.mapRange_spares start size)))
  | readRange range =>
    exact untouched
      ((wp_discard _).2 (onGpu_spares found (Gpu.untouched_readRange range).spares))
  | writeRange dst data => exact untouched (onGpu_spares found (Gpu.writeRange_spares dst data))
  | transfer dst src source => exact untouched (transfer_spares key dst src source w)
  | unmap alloc =>
    rw [leaves_unmap found]
    exact unmap_spares found alloc

namespace World

variable {key : DeviceKey} {w w' : World} {g : Gpu}

theorem memory_unmapped (c : Contents) (g : Gpu) (id other : UInt32) :
    Device.memory c (.gpu (g.unmapped id)) other = Device.memory c (.gpu g) other := by
  cases held : g.buffers.get? id with
  | none => rw [Gpu.unmapped_of_none held]
  | some a =>
    rw [Gpu.unmapped_of_some held, Device.memory, Device.memory, SortedMap.get?_insert]
    split
    · rename_i here
      rw [Ranked.rank_inj here, held]
      rfl
    · rfl

/-- What a device holds is in native buffers that were there before. -/
theorem Housed.memory_extends {d : Device} {p : Platform} (housed : w.Housed)
    (found : w.devices.get? key = some d) (platform : w.platform.Extends p) (id : UInt32) :
    d.memory p.contents id = d.memory w.platform.contents id := by
  cases d with
  | host | remote => rfl
  | gpu g =>
    exact Device.memory_congr rfl fun a lives =>
      platform.old a.buffer ((housed.each found).stored_of lives)

theorem Untouched.memory (housed : w.Housed) (left : Untouched w w') : w'.memory = w.memory := by
  funext ⟨k, id⟩
  rw [World.memory, World.memory, left.devices]
  cases found : w.devices.get? k with
  | none => rfl
  | some d => exact housed.memory_extends found left.platform id

theorem memory_leaves (housed : w.Housed) (found : w.devices.get? key = some (.gpu g))
    (platform : w.platform.Extends w'.platform) {request : MemoryRequest}
    (devices : w'.devices = request.leaves key g w.devices) : w'.memory = w.memory := by
  have same : w.devices.insert key (.gpu g) = w.devices := SortedMap.insert_eq_self found
  obtain ⟨g', devices, held⟩ : ∃ g', w'.devices = w.devices.insert key (.gpu g') ∧
      ∀ c id, Device.memory c (.gpu g') id = Device.memory c (.gpu g) id := by
    cases request with
    | unmap alloc =>
      rw [MemoryRequest.leaves_unmap found] at devices
      refine ⟨_, devices, fun c id => ?_⟩
      split
      · exact memory_unmapped c g alloc.id id
      · rfl
    | _ => exact ⟨g, devices.trans same.symm, fun _ _ => rfl⟩
  funext ⟨k, id⟩
  simp only [World.memory, devices, SortedMap.get?_insert, Ranked.rank_eq_iff]
  split
  · rename_i here
    subst here
    rw [found, Option.bind_some, Option.bind_some, held, housed.memory_extends found platform]
  · cases there : w.devices.get? k with
    | none => rfl
    | some d => exact housed.memory_extends there platform id

/-- A request to the memory of a graphics processor that fails leaves all devices as they were, with
their allocations, the bytes of these and what the host has mapped; only unmapping an allocation
that is mapped ends the mapping also when it fails. -/
theorem memory_failures {request : MemoryRequest} {e : Fault} (reachable : w.Reachable)
    (found : w.devices.get? key = some (.gpu g))
    (failed : (request.run key).outcome w = (.error e, w')) :
    w'.memory = w.memory ∧
      match request.unmaps? g with
      | none => w'.devices = w.devices
      | some (id, a) => w'.devices = w.devices.insert key
          (.gpu { g with buffers := g.buffers.insert id { a with mapping := none } }) := by
  obtain ⟨platform, devices⟩ := (request.spares found).failed failed
  refine ⟨memory_leaves reachable.housed found platform devices, ?_⟩
  rw [MemoryRequest.leaves] at devices
  split at devices
  all_goals exact devices

/-- A graphics processor with six bytes that are mapped and that the host has written, on a platform
that will not answer the next time. -/
def silenced : World :=
  World.after {}
    [.createGpu {}, .register 0, .allocate 0 (.hostVisible 6), .mapRange 0 ⟨⟨0⟩, 0, 0⟩ wholeSize,
      .writeRegion 0 ⟨0, 0, 6⟩ 0 (.ofBytes [1, 2, 3, 4, 5, 6]), .script { polls := [false] }]

theorem silenced_isGpu : ∃ g, silenced.devices.get? 0 = some (.gpu g) := by
  have isGpu : silenced.IsGpu 0 ⟨0⟩ := by
    unfold IsGpu
    decide +kernel
  obtain ⟨g, found, -⟩ := isGpu.gpu
  exact ⟨g, found⟩

/-- Three of the bytes, at an odd place. -/
def oddRead : MemoryRequest := .readRange ⟨⟨⟨0⟩, 0, 1⟩, 3⟩

/-- Reading them fails, and leaves the mapping as it was. -/
theorem memory_failures_silenced :
    ∃ w', (oddRead.run 0).outcome silenced = (.error (.device (.backend .pollTimeout)), w') ∧
      w'.memory = silenced.memory ∧ w'.devices = silenced.devices := by
  obtain ⟨g, found⟩ := silenced_isGpu
  have failed : ((oddRead.run 0).outcome silenced).1 =
      .error (.device (.backend .pollTimeout)) := rfl
  refine ⟨((oddRead.run 0).outcome silenced).2, Prod.ext failed rfl, ?_⟩
  exact memory_failures (Reachable.new.after _) found (Prod.ext failed rfl)

/-- What the host sees in a mapped region goes by the allocations of the device alone. -/
theorem readRegion_of_buffers {g' : Gpu} (found : w.devices.get? key = some (.gpu g))
    (found' : w'.devices.get? key = some (.gpu g')) (same : g'.buffers = g.buffers)
    (region : MappedRegion) : w'.readRegion key region = w.readRegion key region := by
  simp only [readRegion, found, found', Gpu.readRegion, same]

/-- Unmapping fails too, and ends the mapping with what the host wrote: the odd end of the window
has to be read before the bytes can be copied back. -/
theorem unmap_loses_writes :
    ¬∀ (w w' : World) (key : DeviceKey) (g : Gpu) (request : MemoryRequest) (e : Fault),
      w.Reachable → w.devices.get? key = some (.gpu g) →
        (request.run key).outcome w = (.error e, w') →
          ∃ g', w'.devices.get? key = some (.gpu g') ∧ g'.buffers = g.buffers := by
  intro always
  obtain ⟨g, found⟩ := silenced_isGpu
  let request : MemoryRequest := .unmap ⟨⟨0⟩, 0⟩
  have failed : ((request.run 0).outcome silenced).1 =
      .error (.device (.backend .pollTimeout)) := rfl
  obtain ⟨g', found', same⟩ := always silenced ((request.run 0).outcome silenced).2 0 g request _
    (Reachable.new.after _) found (Prod.ext failed rfl)
  have before : (silenced.readRegion 0 ⟨0, 0, 6⟩).toBytes = [1, 2, 3, 4, 5, 6] := by
    decide +kernel
  have after : (((request.run 0).outcome silenced).2.readRegion 0 ⟨0, 0, 6⟩).toBytes = [] := by
    decide +kernel
  rw [← readRegion_of_buffers found found' same, after] at before
  cases before

end World

end DeviceLayer
