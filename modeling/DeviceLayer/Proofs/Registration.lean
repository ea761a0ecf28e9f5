import DeviceLayer.Proofs.Displays
import DeviceLayer.Proofs.Handles

/-!
# Registration

Any number of registries over the devices of one world, and every order of calls to them. A device
takes its id from the first registry that has room for it and keeps it for life, so registries share
devices but never an entry.

* `World.Bystands` — what becomes of the id slots of devices while none is registered.
* `World.RegisterEnd` — all that can come of registering a device.
* `Registries`, `RegistriesCall.step`, `Registries.after` — the calls and what they do.
* `Registries.Orderly` — the positions of devices are their ids, and no device has two.
* `Registries.registration` — what holds of registries and ids in every run.
-/

namespace DeviceLayer

open DeviceLayer.Action

/-! ## What leaves the id of a device alone -/

/-- The device has the id that it had, or still none. -/
def Device.SameId (d d' : Device) : Prop := d'.assigned = d.assigned

namespace Host

def SameId (h h' : Host) : Prop := (Device.host h).SameId (.host h')

instance : Frame SameId where
  refl _ := rfl
  trans first second := Eq.trans second first
  patches _ _ := rfl

theorem sameId_allocate (params : AllocParams) : (allocate params).Evolves SameId := by
  intro h
  simp only [allocate, wp_bind, wp_get, wp_checked, wp_check, wp_set, wp_pure]
  exact ⟨fun _ _ => ⟨fun _ _ => rfl, fun _ _ => rfl⟩, fun _ _ => rfl⟩

theorem sameId_deallocate (alloc : Allocation) : (deallocate alloc).Evolves SameId := by
  rw [deallocate, discard_bind]
  exact evolves_block_bind fun h b _ => rfl

theorem sameId_writeRegion (h : Host) (region : MappedRegion) (offset : Nat) (data : Storage) :
    SameId h (h.writeRegion region offset data) := by
  unfold writeRegion
  split <;> rfl

end Host

namespace Remote

def SameId (s t : Live Remote) : Prop := (Device.remote s.device).SameId (.remote t.device)

instance : Evolution SameId := ⟨fun _ => rfl, fun first second => Eq.trans second first⟩

theorem sameId_listens {α : Type} {a : Action (Live Remote) α} (h : a.Evolves Listens) :
    a.Evolves SameId := h.mono fun _ _ step => congrArg assigned step.device

theorem sameId_receive (call : RemoteCall) : (receive call).Evolves SameId :=
  sameId_listens (listens_receive call)

theorem sameId_update {f : Remote → Remote} (same : ∀ r, (f r).assigned = r.assigned) :
    (Live.update f).Evolves SameId := Live.evolves_update fun s => same s.device

theorem sameId_allocate (params : AllocParams) : (allocate params).Evolves SameId := by
  refine (sameId_receive _).bind fun _ => (Evolves.assert _ _).bind fun _ => ?_
  refine Live.evolves_self.bind fun r => (Evolves.check _).bind fun taken => ?_
  exact .bind (Live.evolves_update fun _ => rfl) fun _ => .pure _

theorem sameId_deallocate (alloc : Allocation) : (deallocate alloc).Evolves SameId :=
  (sameId_receive _).bind fun _ => sameId_update fun _ => rfl

theorem sameId_writeRange (dst : Pointer) (data : Storage) :
    (writeRange dst data).Evolves SameId :=
  (sameId_receive _).bind fun _ => Live.evolves_self.bind fun _ =>
    (Evolves.checked _).bind fun _ => sameId_update fun _ => rfl

theorem sameId_launch (stream kernel : UInt32) (mapping : Mapping) :
    (launch stream kernel mapping).Evolves SameId := by
  refine (sameId_receive _).bind fun _ => sameId_update fun r => ?_
  obtain ⟨allocations, added⟩ := foldl_addToRange kernel.toUInt8 mapping.toList r
  rw [added]

end Remote

namespace Gpu

theorem Numbers.sameId {s t : Live Gpu} (h : Numbers s t) :
    (Device.gpu s.device).SameId (.gpu t.device) := h.assigned

theorem numbers_writeRegion (s : Live Gpu) (region : MappedRegion) (offset : Nat)
    (data : Storage) : Numbers s { s with device := s.device.writeRegion region offset data } :=
  framed_writeRegion region offset data s

end Gpu

namespace World

/-- The id slot of a device; without a device there is no slot. -/
def slot? (w : World) (key : DeviceKey) : Option (Option DeviceId) :=
  (w.devices.get? key).map Device.assigned

/-- Devices may have come, with an empty slot. All others have the slot that they had. -/
structure Bystands (w w' : World) : Prop where
  registry : w'.registry = w.registry
  nextKey : w.nextKey ≤ w'.nextKey
  slots : ∀ key, w'.slot? key = w.slot? key ∨ w.nextKey ≤ key ∧ w'.slot? key = some none

variable {α : Type} {key : DeviceKey} {w w' : World}

theorem Bystands.of_devices (registry : w'.registry = w.registry)
    (nextKey : w'.nextKey = w.nextKey) (devices : w'.devices = w.devices) : w.Bystands w' := by
  refine ⟨registry, Nat.le_of_eq nextKey.symm, fun key => .inl ?_⟩
  rw [slot?, slot?, devices]

instance : Evolution Bystands where
  refl w := .of_devices rfl rfl rfl
  trans first second := by
    refine ⟨second.registry.trans first.registry, Nat.le_trans first.nextKey second.nextKey, ?_⟩
    intro key
    rcases second.slots key with same | ⟨new, empty⟩
    · rw [same]
      exact first.slots key
    · exact .inr ⟨Nat.le_trans first.nextKey new, empty⟩

theorem slot?_put {d : Device} {p : Platform} (key' : DeviceKey) :
    (w.put key d p).slot? key' = if key' = key then some d.assigned else w.slot? key' := by
  rw [slot?, get?_put]
  split <;> rfl

theorem Bystands.put {d d' : Device} (found : w.devices.get? key = some d)
    (same : d.SameId d') (p : Platform) : w.Bystands (w.put key d' p) := by
  refine ⟨rfl, Nat.le_refl _, fun key' => .inl ?_⟩
  rw [slot?_put]
  split
  · rename_i here
    rw [here, slot?, found, Option.map_some]
    exact congrArg some same
  · rfl

theorem bystands_onDevice (key : DeviceKey) {host : Action Host α} {gpu : Action (Live Gpu) α}
    {remote : Action (Live Remote) α} (onHost : host.Evolves Host.SameId)
    (onGpu : gpu.Evolves Gpu.Numbers) (onRemote : remote.Evolves Remote.SameId) :
    (onDevice key host gpu remote).Evolves Bystands :=
  evolves_onDevice onHost onGpu onRemote (fun _ _ _ found same => .put found same _)
    (fun _ _ _ found step => .put found step.sameId _) fun _ _ _ found same => .put found same _

theorem bystands_addDevice {d : Device} (new : d.assigned = none) :
    (addDevice d).Evolves Bystands := by
  intro w
  refine ⟨rfl, Nat.le_succ _, fun key => ?_⟩
  simp only [slot?, SortedMap.get?_insert, Ranked.rank_eq_iff]
  split
  · rename_i here
    exact .inr ⟨Nat.le_of_eq here.symm, congrArg some new⟩
  · exact .inl rfl

theorem bystands_createGpu (limits : Limits) : (createGpu limits).Evolves Bystands := by
  intro w
  have made : (Gpu.create limits).wp (fun g _ => g.assigned = none) (fun _ _ => True)
      w.platform := by
    simp only [Gpu.create, wp_bind, wp_ite, wp_throw, wp_modifyGet, Platform.wp_createBuffer,
      wp_get, wp_pure, implies_true, and_true]
  have aside (p : Platform) : Bystands w { w with platform := p } := .of_devices rfl rfl rfl
  simp only [createGpu, wp_bind, wp_within]
  refine made.mono (fun g p new => ?_) fun _ p _ => aside p
  have new : (Device.gpu g).assigned = none := new
  exact (bystands_addDevice new { w with platform := p }).mono
    (fun _ _ => Evolution.trans (aside p)) fun _ _ => Evolution.trans (aside p)

theorem bystands_steps : OpSteps Bystands where
  script _ _ := .of_devices rfl rfl rfl
  addHost _ := bystands_addDevice rfl
  createGpu := bystands_createGpu
  allocate key params := bystands_onDevice key (Host.sameId_allocate params)
    (Gpu.framed_allocate params) (Remote.sameId_allocate params)
  deallocate key alloc := bystands_onDevice key (Host.sameId_deallocate alloc)
    (Gpu.framed_deallocate alloc) (Remote.sameId_deallocate alloc)
  mapRange key start size := bystands_onDevice key (Host.evolves_mapRange start size)
    (Gpu.framed_mapRange start size) (.throw _)
  unmap key alloc := bystands_onDevice key (Host.evolves_unmap alloc) (Gpu.framed_unmap alloc)
    (.throw _)
  readRange key range := bystands_onDevice key (Host.evolves_readRange range)
    (Gpu.framed_readRange range) (Remote.sameId_listens (Remote.listens_readRange range))
  writeRange key dst data := bystands_onDevice key (Host.evolves_writeRange dst data)
    (Gpu.framed_writeRange dst data) (Remote.sameId_writeRange dst data)
  copyWithin key dst src := bystands_onDevice key (.throw _) (Gpu.framed_copyWithin dst src)
    (.throw _)
  listens key call := bystands_onDevice key (.pure _) (.pure _) (Remote.sameId_receive call)
  waits key call := bystands_onDevice key (.pure _) Gpu.framed_waitIdle
    (Remote.sameId_receive call)
  launchLocal key stream kernel mapping := bystands_onDevice key (.throw _)
    (Gpu.framed_launchLocal stream kernel mapping) (Remote.sameId_launch stream kernel mapping)
  waitStream key _ := bystands_onDevice key (.throw _)
    ((Evolves.require _ _).bind fun _ => Gpu.framed_commandSync) (Remote.sameId_receive _)

theorem bystands_writeRegion (w : World) (key : DeviceKey) (region : MappedRegion) (offset : Nat)
    (data : Storage) : w.Bystands (w.writeRegion key region offset data) := by
  unfold writeRegion
  split
  · rename_i h found
    exact .put found (h.sameId_writeRegion region offset data) w.platform
  · rename_i g found
    exact .put found (Gpu.numbers_writeRegion ⟨w.platform, g⟩ region offset data).sameId w.platform
  · exact Evolution.refl w

end World

/-- The calls in which no device is registered or removed, and none comes with an id. -/
def WorldCall.bystands : WorldCall → Bool
  | .addRemote device => device.assigned.isNone
  | call => !call.enrols

/-- Only registration fills the id slot of a device. -/
theorem WorldCall.evolves_bystands {call : WorldCall} (aside : call.bystands = true) :
    call.run.Evolves World.Bystands := by
  cases call with
  | newRegistry | register | remove => cases aside
  | addRemote device =>
    have new : (Device.remote device).assigned = none := Option.isNone_iff_eq_none.1 aside
    exact (World.bystands_addDevice new).discard
  | writeRegion key region offset data =>
    exact fun w => w.bystands_writeRegion key region offset data
  | client key lists call =>
    refine fun w => (wp_modify _).2 ?_
    split
    · rename_i g found
      have step := call.framedImage (S := Gpu.Numbers) { live := ⟨w.platform, g⟩, lists }
      exact .put found step.sameId _
    · exact Evolution.refl w
  | _ => exact WorldCall.evolves_ops World.bystands_steps _ rfl rfl

/-! ## Registering -/

namespace World

variable {key : DeviceKey} {w w' : World}

/-- All that can come of registering a device. A refusal leaves the world as it was. -/
inductive RegisterEnd (w : World) (key : DeviceKey) : Except Fault DeviceId → World → Prop where
  | full (full : w.registry.capacity ≤ w.registry.size) :
    RegisterEnd w key (.error (.device (.resourceLimit (.devices w.registry.capacity)))) w
  | unknown (room : w.registry.size < w.registry.capacity) (missing : w.slot? key = none) :
    RegisterEnd w key (.error gone) w
  | taken {id : DeviceId} (room : w.registry.size < w.registry.capacity)
    (filled : w.slot? key = some (some id)) :
    RegisterEnd w key (.error (.device (.precondition (.alreadyRegistered id)))) w
  | entered {w' : World} (room : w.registry.size < w.registry.capacity)
    (empty : w.slot? key = some none)
    (registry : w'.registry = { w.registry with members := w.registry.members ++ [key] })
    (slots : ∀ k, w'.slot? k =
      if k = key then some (some ⟨UInt32.ofNat w.registry.size⟩) else w.slot? k)
    (nextKey : w'.nextKey = w.nextKey) :
    RegisterEnd w key (.ok ⟨UInt32.ofNat w.registry.size⟩) w'

theorem assigned_withId (d : Device) (id : DeviceId) : (d.withId id).assigned = some id := by
  cases d <;> rfl

theorem register_ends (w : World) (key : DeviceKey) :
    RegisterEnd w key ((register key).outcome w).1 ((register key).outcome w).2 := by
  refine wp.outcome (P := fun o => RegisterEnd w key o.1 o.2) ?_
  simp only [register, wp_bind, wp_get, wp_checked, wp_set, wp_pure, Registry.register]
  split
  · rename_i full
    exact ⟨fun _ made => (by cases made), fun _ failed => by cases failed; exact .full full⟩
  · rename_i room
    have room : w.registry.size < w.registry.capacity := Nat.lt_of_not_le room
    cases found : w.devices.get? key with
    | none =>
      refine ⟨fun _ made => (by cases made), fun _ failed => ?_⟩
      cases failed
      exact .unknown room (by rw [slot?, found, Option.map_none])
    | some d =>
      cases has : d.assigned with
      | some id =>
        simp only [has]
        refine ⟨fun _ made => (by cases made), fun _ failed => ?_⟩
        cases failed
        exact .taken room (by rw [slot?, found, Option.map_some, has])
      | none =>
        simp only [has]
        refine ⟨fun made entered => ?_, fun _ failed => (by cases failed)⟩
        cases entered
        refine .entered room (by rw [slot?, found, Option.map_some, has]) rfl (fun k => ?_) rfl
        exact (slot?_put (w := w) (p := w.platform) k).trans (by rw [assigned_withId])

end World

/-! ## Any number of registries -/

/-- The devices of a world, and the registries that may hold them. -/
structure Registries where
  world : World := {}
  tables : List Registry := []

namespace Registries

def slot? (s : Registries) (key : DeviceKey) : Option (Option DeviceId) := s.world.slot? key

/-- Runs an action with one of the registries in force. Without the registry nothing happens. -/
def ask {α : Type} (i : Nat) (action : Action World α) (s : Registries) :
    Option (Except Fault α) × Registries :=
  match s.tables[i]? with
  | none => (none, s)
  | some r =>
    let (result, w) := action.outcome { s.world with registry := r }
    (some result,
      ⟨{ w with registry := s.world.registry }, s.tables.set i w.registry⟩)

/-- Whether some registry holds a device. -/
def holds (s : Registries) (key : DeviceKey) : Bool := s.tables.any (·.members.contains key)

end Registries

inductive RegistriesCall where
  | newRegistry (capacity : Nat)
  | register (registry : Nat) (key : DeviceKey)
  /-- Whoever made a device lets it go. It lives on while a registry holds it. -/
  | letGo (key : DeviceKey)
  /-- Anything else that is asked of the world, with one of the registries in force. -/
  | other (registry : Nat) (call : WorldCall) (aside : call.bystands = true)

namespace RegistriesCall

def step : RegistriesCall → Registries → Registries
  | .newRegistry capacity, s => { s with tables := s.tables ++ [{ capacity }] }
  | .register i key, s => (s.ask i (World.register key)).2
  | .letGo key, s =>
    if s.holds key then s else { s with world.devices := s.world.devices.erase key }
  | .other i call _, s => (s.ask i call.run).2

/-- The device that a call enters into a registry. -/
def enters? (i : Nat) (s : Registries) : RegistriesCall → Option DeviceKey
  | .register j key =>
    match s.ask j (World.register key) with
    | (some (.ok _), _) => if j = i then some key else none
    | _ => none
  | _ => none

end RegistriesCall

namespace Registries

/-- What the calls make of the registries and the devices. -/
def after (s : Registries) (calls : List RegistriesCall) : Registries :=
  calls.foldl (fun s call => call.step s) s

/-- The devices that calls enter into a registry, in order. -/
def entered (i : Nat) : Registries → List RegistriesCall → List DeviceKey
  | _, [] => []
  | s, call :: calls => (call.enters? i s).toList ++ entered i (call.step s) calls

variable {s t : Registries} {i j p q : Nat} {r r' : Registry} {key : DeviceKey}

/-! ### One call -/

theorem ask_of_some {α : Type} (found : s.tables[i]? = some r) (action : Action World α) :
    s.ask i action =
      (some (action.outcome { s.world with registry := r }).1,
        ⟨{ (action.outcome { s.world with registry := r }).2 with registry := s.world.registry },
          s.tables.set i (action.outcome { s.world with registry := r }).2.registry⟩) := by
  rw [ask, found]

/-- All that can come of asking a registry to take a device. A refusal changes nothing at all. -/
inductive RegisterEnd (s : Registries) (i : Nat) (r : Registry) (key : DeviceKey) :
    Except Fault DeviceId → Registries → Prop where
  | full (full : r.capacity ≤ r.size) :
    RegisterEnd s i r key (.error (.device (.resourceLimit (.devices r.capacity)))) s
  | unknown (room : r.size < r.capacity) (missing : s.slot? key = none) :
    RegisterEnd s i r key (.error World.gone) s
  | taken {id : DeviceId} (room : r.size < r.capacity) (filled : s.slot? key = some (some id)) :
    RegisterEnd s i r key (.error (.device (.precondition (.alreadyRegistered id)))) s
  | entered {t : Registries} (room : r.size < r.capacity) (empty : s.slot? key = some none)
    (tables : t.tables = s.tables.set i { r with members := r.members ++ [key] })
    (slots : ∀ k, t.slot? k =
      if k = key then some (some ⟨UInt32.ofNat r.size⟩) else s.slot? k)
    (nextKey : t.world.nextKey = s.world.nextKey) :
    RegisterEnd s i r key (.ok ⟨UInt32.ofNat r.size⟩) t

theorem register_ends (found : s.tables[i]? = some r) (key : DeviceKey) :
    ∃ result t, s.ask i (World.register key) = (some result, t) ∧
      RegisterEnd s i r key result t := by
  refine ⟨_, _, ask_of_some found _, ?_⟩
  obtain ⟨there, held⟩ := List.getElem?_eq_some_iff.1 found
  have same : s.tables.set i r = s.tables := held ▸ List.set_getElem_self there
  have ended := World.register_ends { s.world with registry := r } key
  generalize (World.register key).outcome { s.world with registry := r } = o at ended ⊢
  obtain ⟨result, w⟩ := o
  cases ended with
  | full full => simpa only [same] using .full full
  | unknown room missing => simpa only [same] using .unknown room missing
  | taken room filled => simpa only [same] using .taken room filled
  | entered room empty registry slots nextKey =>
    exact .entered room empty (congrArg (s.tables.set i) registry) slots nextKey

/-- Registering changes nothing, or it enters the device into a registry that there is. -/
theorem register_steps (s : Registries) (i : Nat) (key : DeviceKey) :
    (s.ask i (World.register key)).2 = s ∧
        (∀ j, (RegistriesCall.register i key).enters? j s = none) ∨
      ∃ r t id, s.tables[i]? = some r ∧ s.ask i (World.register key) = (some (.ok id), t) ∧
        RegisterEnd s i r key (.ok id) t := by
  cases found : s.tables[i]? with
  | none => exact .inl (by simp [RegistriesCall.enters?, ask, found])
  | some r =>
    obtain ⟨result, t, asked, ended⟩ := register_ends found key
    cases result with
    | ok id => exact .inr ⟨r, t, id, rfl, asked, ended⟩
    | error e =>
      have same : t = s := by cases ended <;> rfl
      exact .inl (by simp [RegistriesCall.enters?, asked, same])

theorem ask_bystands {call : WorldCall} (aside : call.bystands = true) (s : Registries) (i : Nat) :
    (s.ask i call.run).2.tables = s.tables ∧
      s.world.Bystands (s.ask i call.run).2.world := by
  cases found : s.tables[i]? with
  | none =>
    rw [ask, found]
    exact ⟨rfl, Evolution.refl s.world⟩
  | some r =>
    have step := (WorldCall.evolves_bystands aside).outcome { s.world with registry := r }
    obtain ⟨there, same⟩ := List.getElem?_eq_some_iff.1 found
    rw [ask_of_some found]
    refine ⟨?_, rfl, step.nextKey, step.slots⟩
    rw [step.registry, ← same]
    exact List.set_getElem_self there

theorem sound_ask {α : Type} {action : Action World α} (ages : action.Evolves World.Ages)
    (sound : s.world.Sound) (i : Nat) : (s.ask i action).2.world.Sound := by
  cases found : s.tables[i]? with
  | none => rwa [ask, found]
  | some r =>
    have before : World.Sound { s.world with registry := r } := ⟨sound.keyed, sound.each⟩
    have after := (ages.outcome _).sound before
    rw [ask_of_some found]
    exact ⟨after.keyed, after.each⟩

/-! ### Positions and ids -/

/-- Positions in registries are the ids of devices, and no device has two. -/
structure Orderly (s : Registries) : Prop where
  world : s.world.Sound
  fits : ∀ {i : Nat} {r : Registry}, s.tables[i]? = some r → r.size ≤ r.capacity
  listed : ∀ {i p : Nat} {r : Registry} {key : DeviceKey}, s.tables[i]? = some r →
    r.members[p]? = some key → s.slot? key = some (some ⟨UInt32.ofNat p⟩)
  apart : ∀ {i j p q : Nat} {r r' : Registry} {key : DeviceKey}, s.tables[i]? = some r →
    s.tables[j]? = some r' → r.members[p]? = some key → r'.members[q]? = some key →
      i = j ∧ p = q

theorem orderly_empty : Orderly {} := ⟨World.sound_empty, nofun, nofun, nofun⟩

theorem holds_of_member (found : s.tables[i]? = some r) (member : r.members[p]? = some key) :
    s.holds key = true :=
  List.any_eq_true.2 ⟨r, List.mem_of_getElem? found,
    List.contains_iff_mem.2 (List.mem_of_getElem? member)⟩

theorem Orderly.lives (h : s.Orderly) {slot : Option DeviceId} (there : s.slot? key = some slot) :
    key < s.world.nextKey := by
  obtain ⟨d, found, -⟩ := Option.map_eq_some_iff.1 there
  exact h.world.keyed found

/-- The registries are the same, and so are the ids of the devices that they hold. -/
theorem Orderly.kept (h : s.Orderly) (world : t.world.Sound) (tables : t.tables = s.tables)
    (slots : ∀ key id, s.holds key = true → s.slot? key = some (some id) →
      t.slot? key = some (some id)) : t.Orderly := by
  obtain ⟨w, ts⟩ := t
  subst tables
  refine ⟨world, h.fits, fun found member => ?_, h.apart⟩
  exact slots _ _ (holds_of_member found member) (h.listed found member)

theorem Orderly.newRegistry (h : s.Orderly) (capacity : Nat) :
    ((RegistriesCall.newRegistry capacity).step s).Orderly := by
  -- A member is in a registry that there was before, since the new one has none.
  have older {i p : Nat} {r : Registry} {key : DeviceKey}
      (found : ((RegistriesCall.newRegistry capacity).step s).tables[i]? = some r)
      (member : r.members[p]? = some key) : s.tables[i]? = some r := by
    simp only [RegistriesCall.step, List.getElem?_append] at found
    split at found
    · exact found
    · have new := List.mem_singleton.1 (List.mem_of_getElem? found)
      rw [new] at member
      cases member
  refine ⟨h.world, fun found => ?_, fun found member => h.listed (older found member) member,
    fun found found' member member' => h.apart (older found member) (older found' member') member
      member'⟩
  rcases List.mem_append.1 (List.mem_of_getElem? found) with old | new
  · obtain ⟨i, found⟩ := List.getElem?_of_mem old
    exact h.fits found
  · rw [List.mem_singleton.1 new]
    exact Nat.zero_le _

/-- A registry with a new member has it at the end, and the old ones where they were. -/
theorem member_of_set {key' : DeviceKey} (found : s.tables[i]? = some r)
    (found' : (s.tables.set i { r with members := r.members ++ [key] })[j]? = some r')
    (member : r'.members[p]? = some key') :
    (∃ old, s.tables[j]? = some old ∧ old.members[p]? = some key') ∨
      i = j ∧ p = r.size ∧ key' = key := by
  rw [List.getElem?_set] at found'
  split at found'
  · rename_i here
    subst here
    split at found'
    · cases found'
      simp only [List.getElem?_append] at member
      split at member
      · exact .inl ⟨r, found, member⟩
      · rename_i past
        obtain ⟨at_end, same⟩ := List.getElem?_eq_some_iff.1 member
        have last : p - r.members.length = 0 := Nat.lt_one_iff.1 at_end
        refine .inr ⟨rfl, Nat.le_antisymm (Nat.sub_eq_zero_iff_le.1 last) (Nat.not_lt.1 past), ?_⟩
        simpa [last] using same.symm
    · cases found'
  · exact .inl ⟨r', found', member⟩

theorem Orderly.entered (h : s.Orderly) (world : t.world.Sound) (found : s.tables[i]? = some r)
    (room : r.size < r.capacity) (empty : s.slot? key = some none)
    (tables : t.tables = s.tables.set i { r with members := r.members ++ [key] })
    (slots : ∀ k, t.slot? k =
      if k = key then some (some ⟨UInt32.ofNat r.size⟩) else s.slot? k) : t.Orderly := by
  -- A device without an id is in no registry, so the new entry is its first.
  have absent {j q : Nat} {old : Registry} (found : s.tables[j]? = some old) :
      old.members[q]? ≠ some key := by
    intro member
    have filled := h.listed found member
    rw [empty] at filled
    cases filled
  refine ⟨world, fun {j r'} found' => ?_, fun {j p r' key'} found' member => ?_,
    fun {j k p q r₁ r₂ key'} found₁ found₂ member₁ member₂ => ?_⟩
  · rw [tables] at found'
    rcases List.mem_or_eq_of_mem_set (List.mem_of_getElem? found') with old | rfl
    · obtain ⟨j, found'⟩ := List.getElem?_of_mem old
      exact h.fits found'
    · have longer : Registry.size { r with members := r.members ++ [key] } = r.size + 1 :=
        List.length_append
      rw [longer]
      exact room
  · rw [tables] at found'
    rw [slots]
    rcases member_of_set found found' member with ⟨old, found', member⟩ | ⟨-, rfl, rfl⟩
    · rw [if_neg fun same => absent found' (same ▸ member)]
      exact h.listed found' member
    · rw [if_pos rfl]
  · rw [tables] at found₁ found₂
    rcases member_of_set found found₁ member₁ with ⟨old₁, there₁, before₁⟩ | ⟨rfl, rfl, rfl⟩
    · rcases member_of_set found found₂ member₂ with ⟨old₂, there₂, before₂⟩ | ⟨-, -, rfl⟩
      · exact h.apart there₁ there₂ before₁ before₂
      · exact absurd before₁ (absent there₁)
    · rcases member_of_set found found₂ member₂ with ⟨old₂, there₂, before₂⟩ | ⟨rfl, rfl, -⟩
      · exact absurd before₂ (absent there₂)
      · exact ⟨rfl, rfl⟩

theorem Orderly.step (h : s.Orderly) (call : RegistriesCall) : (call.step s).Orderly := by
  cases call with
  | newRegistry capacity => exact h.newRegistry capacity
  | register i key =>
    have world := sound_ask (World.ages_register key) h.world i
    rcases register_steps s i key with ⟨same, -⟩ | ⟨r, t, id, found, asked, ended⟩
    · rwa [RegistriesCall.step, same]
    · rw [RegistriesCall.step, asked]
      rw [asked] at world
      cases ended with
      | entered room empty tables slots => exact h.entered world found room empty tables slots
  | letGo key =>
    simp only [RegistriesCall.step]
    split
    · exact h
    · rename_i free
      refine h.kept ((World.Ages.erase s.world key).sound h.world) rfl fun k id held filled => ?_
      have other : k ≠ key := fun same => free (same ▸ held)
      have kept : (s.world.devices.erase key).get? k = s.world.devices.get? k := by
        rw [SortedMap.get?_erase, if_neg fun same => other (Ranked.rank_inj same)]
      exact (congrArg (Option.map Device.assigned) kept).trans filled
  | other i call aside =>
    obtain ⟨tables, step⟩ := ask_bystands aside s i
    refine h.kept (sound_ask call.ages h.world i) tables fun key id _ filled => ?_
    rcases step.slots key with same | ⟨new, -⟩
    · exact same.trans filled
    · exact absurd (h.lives filled) (Nat.not_lt.2 new)

/-! ### Whole runs -/

theorem orderly_after (h : s.Orderly) (calls : List RegistriesCall) : (s.after calls).Orderly := by
  induction calls generalizing s with
  | nil => exact h
  | cons call calls ih => exact ih (h.step call)

/-- The devices of a registry; none where there is no registry yet. -/
def members (s : Registries) (i : Nat) : List DeviceKey :=
  (s.tables[i]?.map (·.members)).getD []

/-- A call adds to a registry what it enters there. -/
theorem members_step (s : Registries) (call : RegistriesCall) (i : Nat) :
    (call.step s).members i = s.members i ++ (call.enters? i s).toList := by
  have same (t : Registries) (tables : t.tables = s.tables) :
      t.members i = s.members i ++ [] := by rw [members, members, tables, List.append_nil]
  cases call with
  | newRegistry capacity =>
    simp only [RegistriesCall.step, members, RegistriesCall.enters?, List.getElem?_append]
    split
    · simp
    · rename_i past
      rw [List.getElem?_eq_none (Nat.not_lt.1 past)]
      cases i - s.tables.length <;> simp
  | register j key =>
    rcases register_steps s j key with ⟨unchanged, none⟩ | ⟨r, t, id, found, asked, ended⟩
    · rw [none]
      exact same _ (congrArg tables unchanged)
    · simp only [RegistriesCall.step, RegistriesCall.enters?, asked]
      cases ended with
      | entered room empty tables =>
        simp only [members, tables, List.getElem?_set]
        split
        · rename_i here
          subst here
          rw [if_pos (List.getElem?_eq_some_iff.1 found).1, found]
          rfl
        · simp
  | letGo key =>
    simp only [RegistriesCall.step]
    split <;> exact same _ rfl
  | other j call aside => exact same _ (ask_bystands aside s j).1

theorem members_after (s : Registries) (calls : List RegistriesCall) (i : Nat) :
    (s.after calls).members i = s.members i ++ entered i s calls := by
  induction calls generalizing s with
  | nil => exact (List.append_nil _).symm
  | cons call calls ih =>
    refine (ih (call.step s)).trans ?_
    rw [members_step, List.append_assoc, entered]

/-- A registry stays, with its capacity. -/
theorem capacity_step (found : s.tables[i]? = some r) (call : RegistriesCall) :
    ∃ r', (call.step s).tables[i]? = some r' ∧ r'.capacity = r.capacity := by
  have same {t : Registries} (tables : t.tables = s.tables) :
      ∃ r', t.tables[i]? = some r' ∧ r'.capacity = r.capacity := ⟨r, by rw [tables, found], rfl⟩
  cases call with
  | newRegistry capacity =>
    refine ⟨r, ?_, rfl⟩
    exact (List.getElem?_append_left (List.getElem?_eq_some_iff.1 found).1).trans found
  | register j key =>
    rcases register_steps s j key with ⟨unchanged, -⟩ | ⟨r₀, t, id, found', asked, ended⟩
    · exact same (congrArg tables unchanged)
    · rw [RegistriesCall.step, asked]
      cases ended with
      | entered room empty tables =>
        simp only [tables, List.getElem?_set]
        split
        · rename_i here
          subst here
          cases found'.symm.trans found
          exact ⟨_, if_pos (List.getElem?_eq_some_iff.1 found).1, rfl⟩
        · exact ⟨r, found, rfl⟩
  | letGo key =>
    simp only [RegistriesCall.step]
    split <;> exact same rfl
  | other j call aside => exact same (ask_bystands aside s j).1

theorem capacity_after (found : s.tables[i]? = some r) (calls : List RegistriesCall) :
    ∃ r', (s.after calls).tables[i]? = some r' ∧ r'.capacity = r.capacity := by
  induction calls generalizing s r with
  | nil => exact ⟨r, found, rfl⟩
  | cons call calls ih =>
    obtain ⟨r', found', same⟩ := capacity_step found call
    obtain ⟨r'', found'', same'⟩ := ih found'
    exact ⟨r'', found'', same'.trans same⟩

/-- The key was given to a device that has this id, if it lives. -/
structure Named (s : Registries) (key : DeviceKey) (id : DeviceId) : Prop where
  keyed : key < s.world.nextKey
  id : ∀ {slot}, s.slot? key = some slot → slot = some id

variable {id : DeviceId}

theorem Named.step (h : s.Named key id) (call : RegistriesCall) : (call.step s).Named key id := by
  cases call with
  | newRegistry capacity => exact ⟨h.keyed, h.id⟩
  | register j key' =>
    rcases register_steps s j key' with ⟨same, -⟩ | ⟨r, t, id, found, asked, ended⟩
    · rwa [RegistriesCall.step, same]
    · rw [RegistriesCall.step, asked]
      cases ended with
      | entered room empty tables slots nextKey =>
        refine ⟨Nat.lt_of_lt_of_eq h.keyed nextKey.symm, fun there => ?_⟩
        rw [slots] at there
        split at there
        · rename_i here
          subst here
          cases h.id empty
        · exact h.id there
  | letGo key' =>
    simp only [RegistriesCall.step]
    split
    · exact h
    · refine ⟨h.keyed, fun there => h.id ?_⟩
      obtain ⟨d, found, rfl⟩ := Option.map_eq_some_iff.1 there
      exact Option.map_eq_some_iff.2 ⟨d, SortedMap.get?_of_erase found, rfl⟩
  | other j call aside =>
    have step := (ask_bystands aside s j).2
    refine ⟨Nat.lt_of_lt_of_le h.keyed step.nextKey, fun there => ?_⟩
    rcases step.slots key with same | ⟨new, -⟩
    · exact h.id (same.symm.trans there)
    · exact absurd h.keyed (Nat.not_lt.2 new)

theorem named_after (h : s.Named key id) (calls : List RegistriesCall) :
    (s.after calls).Named key id := by
  induction calls generalizing s with
  | nil => exact h
  | cons call calls ih => exact ih (h.step call)

/-! ### Registries and ids in every run -/

/-- The ids of devices are their positions, and a registry finds them by these. Ids are words of 32
bits, so in a longer registry the first device with an id is found. -/
structure Files (s : Registries) (r : Registry) : Prop where
  size_le : r.size ≤ r.capacity
  ids : ∀ p key, r.members[p]? = some key → s.slot? key = some (some ⟨UInt32.ofNat p⟩)
  finds : ∀ id, r.find? id = r.members.find? fun key => s.slot? key = some (some id)
  finds_iff : r.size ≤ UInt32.size → ∀ id key,
    r.find? id = some key ↔ key ∈ r.members ∧ s.slot? key = some (some id)

/-- No device that lives has another id later on, and no registry has given one up. -/
structure Precedes (s t : Registries) : Prop where
  ids : ∀ key id slot, s.slot? key = some (some id) → t.slot? key = some slot → slot = some id
  held : ∀ key id, s.holds key = true → s.slot? key = some (some id) →
    t.slot? key = some (some id)
  tables : ∀ (i : Nat) (r : Registry), s.tables[i]? = some r →
    ∃ r' : Registry, t.tables[i]? = some r' ∧ r'.capacity = r.capacity ∧ r.members <+: r'.members

/-- What a registry answers when it is asked to take a device. A refusal changes nothing at all. -/
structure Admits (s : Registries) (i : Nat) (r : Registry) (key : DeviceKey) : Prop where
  full : r.capacity ≤ r.size → s.ask i (World.register key) =
    (some (.error (.device (.resourceLimit (.devices r.capacity)))), s)
  taken : r.size < r.capacity → ∀ id, s.slot? key = some (some id) →
    s.ask i (World.register key) =
      (some (.error (.device (.precondition (.alreadyRegistered id)))), s)
  room : r.size < r.capacity → s.slot? key = some none →
    ∃ t, s.ask i (World.register key) = (some (.ok ⟨UInt32.ofNat r.size⟩), t) ∧
      t.tables = s.tables.set i { r with members := r.members ++ [key] } ∧
      ∀ k, t.slot? k = if k = key then some (some ⟨UInt32.ofNat r.size⟩) else s.slot? k

theorem ofNat_eq_iff {p : Nat} {id : DeviceId} :
    some (some (⟨UInt32.ofNat p⟩ : DeviceId)) = some (some id) ↔
      p % UInt32.size = id.index.toNat := by
  obtain ⟨index⟩ := id
  simp [← UInt32.toNat_inj]

theorem Orderly.files (h : s.Orderly) (found : s.tables[i]? = some r) : s.Files r := by
  -- Whether the device at a place has an id can be told from the place.
  have has {p : Nat} {key : DeviceKey} (there : r.members[p]? = some key) (id : DeviceId) :
      s.slot? key = some (some id) ↔ p % UInt32.size = id.index.toNat := by
    rw [h.listed found there, ofNat_eq_iff]
  refine ⟨h.fits found, fun p key => h.listed found, fun id => ?_, fun short id key => ?_⟩
  · have small : id.index.toNat % UInt32.size = id.index.toNat :=
      Nat.mod_eq_of_lt id.index.toNat_lt
    cases there : r.members[id.index.toNat]? with
    | some key =>
      obtain ⟨inside, same⟩ := List.getElem?_eq_some_iff.1 there
      refine there.trans (List.find?_eq_some_iff_getElem.2 ⟨?_, _, inside, same, ?_⟩).symm
      · exact decide_eq_true ((has there id).2 small)
      · intro q before
        have sooner := List.getElem?_eq_getElem (Nat.lt_trans before inside)
        have other : q % UInt32.size ≠ id.index.toNat :=
          Nat.ne_of_lt (Nat.lt_of_le_of_lt (Nat.mod_le _ _) before)
        simpa using fun same => other ((has sooner id).1 same)
    | none =>
      refine there.trans (List.find?_eq_none.2 fun key member => ?_).symm
      obtain ⟨q, there'⟩ := List.getElem?_of_mem member
      have bound := (List.getElem?_eq_some_iff.1 there').1
      have past := List.getElem?_eq_none_iff.1 there
      have other : q % UInt32.size ≠ id.index.toNat :=
        Nat.ne_of_lt (Nat.lt_of_le_of_lt (Nat.mod_le _ _) (Nat.lt_of_lt_of_le bound past))
      simpa using fun same => other ((has there' id).1 same)
  · refine ⟨fun there => ⟨List.mem_of_getElem? there, (has there id).2 ?_⟩, ?_⟩
    · exact Nat.mod_eq_of_lt id.index.toNat_lt
    · rintro ⟨member, filled⟩
      obtain ⟨q, there⟩ := List.getElem?_of_mem member
      have bound := (List.getElem?_eq_some_iff.1 there).1
      have place := (has there id).1 filled
      rw [Nat.mod_eq_of_lt (Nat.lt_of_lt_of_le bound short)] at place
      rwa [place] at there

theorem precedes_after (h : s.Orderly) (calls : List RegistriesCall) :
    s.Precedes (s.after calls) := by
  have kept {i : Nat} {r : Registry} (found : s.tables[i]? = some r) :
      ∃ r', (s.after calls).tables[i]? = some r' ∧ r'.capacity = r.capacity ∧
        r.members <+: r'.members := by
    obtain ⟨r', found', capacity⟩ := capacity_after found calls
    have grown := members_after s calls i
    simp only [members, found, found', Option.map_some, Option.getD_some] at grown
    exact ⟨r', found', capacity, grown ▸ List.prefix_append _ _⟩
  have ids {key : DeviceKey} {id : DeviceId} (filled : s.slot? key = some (some id)) :
      (s.after calls).Named key id := by
    refine named_after ⟨h.lives filled, fun there => ?_⟩ calls
    exact Option.some.inj (there.symm.trans filled)
  refine ⟨fun key id slot filled => (ids filled).id, fun key id held filled => ?_,
    fun i r => kept⟩
  obtain ⟨r, member, mem⟩ := List.any_eq_true.1 held
  obtain ⟨i, found⟩ := List.getElem?_of_mem member
  obtain ⟨p, there⟩ := List.getElem?_of_mem (List.contains_iff_mem.1 mem)
  obtain ⟨r', found', -, more, longer⟩ := kept found
  have inside := (List.getElem?_eq_some_iff.1 there).1
  have there' : r'.members[p]? = some key := by
    rw [← longer, List.getElem?_append_left inside, there]
  rw [(orderly_after h calls).listed found' there', ← h.listed found there, filled]

theorem admits (found : s.tables[i]? = some r) (key : DeviceKey) : s.Admits i r key := by
  obtain ⟨result, t, asked, ended⟩ := register_ends found key
  cases ended with
  | full full =>
    exact ⟨fun _ => asked, fun room => absurd full (Nat.not_le.2 room),
      fun room => absurd full (Nat.not_le.2 room)⟩
  | unknown room missing =>
    exact ⟨fun full => absurd full (Nat.not_le.2 room),
      fun _ _ filled => by simp [missing] at filled, fun _ empty => by simp [missing] at empty⟩
  | taken room filled =>
    refine ⟨fun full => absurd full (Nat.not_le.2 room), fun _ id filled' => ?_,
      fun _ empty => by simp [filled] at empty⟩
    cases filled.symm.trans filled'
    exact asked
  | entered room empty tables slots =>
    exact ⟨fun full => absurd full (Nat.not_le.2 room),
      fun _ _ filled => by simp [empty] at filled, fun _ _ => ⟨t, asked, tables, slots⟩⟩

/-- In every run a registry holds the devices that were entered into it, in order and no more than
its capacity, and finds each by its position, which is the id of that device. A device is held once
at most, no id changes, and a device that a full registry refused can be registered elsewhere. -/
theorem registration (calls : List RegistriesCall) :
    let s := after {} calls
    (∀ (i : Nat) (r : Registry), s.tables[i]? = some r →
      r.members = entered i {} calls ∧ s.Files r ∧ ∀ key, s.Admits i r key) ∧
    (∀ (i j p q : Nat) (r r' : Registry) (key : DeviceKey), s.tables[i]? = some r →
      s.tables[j]? = some r' → r.members[p]? = some key → r'.members[q]? = some key →
        i = j ∧ p = q) ∧
    (∀ more, s.Precedes (s.after more)) ∧
    ∀ (i j : Nat) (r r' : Registry) (key : DeviceKey), s.tables[i]? = some r →
      s.tables[j]? = some r' → r.capacity ≤ r.size → r'.size < r'.capacity →
        s.slot? key = some none →
          ((s.ask i (World.register key)).2.ask j (World.register key)).1 =
            some (.ok ⟨UInt32.ofNat r'.size⟩) := by
  have orderly := orderly_after orderly_empty calls
  refine ⟨fun i r found => ⟨?_, orderly.files found, admits found⟩,
    fun i j p q r r' key => orderly.apart, precedes_after orderly, ?_⟩
  · have grown := members_after {} calls i
    rwa [members, found] at grown
  · intro i j r r' key found found' full room empty
    rw [(admits found key).full full]
    obtain ⟨t, asked, -⟩ := (admits found' key).room room empty
    rw [asked]

/-- The second device finds the first registry full, and is the first one of the other. -/
example :
    let s := after {} [.newRegistry 1, .newRegistry 2, .other 0 (.addHost 64) rfl,
      .other 0 (.addHost 64) rfl, .register 0 0, .register 0 1, .register 1 1]
    s.tables.map (·.members) = [[0], [1]] ∧ s.slot? 1 = some (some ⟨0⟩) := by decide

end Registries

end DeviceLayer
