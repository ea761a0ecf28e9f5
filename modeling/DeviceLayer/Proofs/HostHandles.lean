import DeviceLayer.Proofs.Refusals
import DeviceLayer.Proofs.Registration

/-!
# Handles of host devices

A host device takes a handle if it carries the id that the device has at the moment and there is a
block behind it. Before it is registered that id is the one of null, which all unregistered devices
share, and which it gives up when it is registered. So handles of registered devices are good until
they are given up, and those that were made before are not.

* `WorldCall.ofHosts` — what is asked of a world of host devices and one registry.
* `World.Listed`, `World.Named` — the registry finds its devices by their ids, and for good.
* `World.Backed`, `WorldCall.spares` — no block goes but the one that is given up.
* `World.handed` — the handles that devices give in a run.
* `World.SafeHandle`, `World.handles_of_hosts` — which devices take a handle after a run, and when
  every device takes its own handles and no others.
-/

namespace DeviceLayer

open DeviceLayer.Action

namespace Host

/-- The device has all blocks that it had. -/
def Retains (h h' : Host) : Prop :=
  ∀ id, (h.blocks.get? id).isSome = true → (h'.blocks.get? id).isSome = true

theorem retains_insert (h : Host) (id : UInt32) (b : HostBlock) :
    Retains h { h with blocks := h.blocks.insert id b } :=
  fun _ here => (SortedMap.isSome_insert _ _ _ _).2 (.inr here)

instance : Frame Retains where
  refl _ _ here := here
  trans first second id here := second id (first id here)
  patches _ _ := retains_insert _ _ _

/-- A device gives a handle with its own id, and has a block behind it. -/
theorem wp_allocate_retains (params : AllocParams) (h : Host) :
    (allocate params).wp
      (fun alloc t => Retains h t ∧ alloc.device = h.id ∧ t.assigned = h.assigned ∧
        (t.blocks.get? alloc.id).isSome = true)
      (fun _ t => Retains h t) h := by
  have same : Retains h h := Evolution.refl h
  simp only [allocate, wp_bind, wp_checked, wp_get, wp_check, wp_set, wp_pure]
  refine ⟨fun _ _ => ⟨fun taken _ => ⟨?_, trivial, trivial, ?_⟩, fun _ _ => same⟩, fun _ _ => same⟩
  · exact fun _ here => (SortedMap.isSome_insert _ _ _ _).2 (.inr here)
  · exact (SortedMap.isSome_insert _ _ _ _).2 (.inl rfl)

theorem retains_writeRegion (h : Host) (region : MappedRegion) (offset : Nat) (data : Storage) :
    Retains h (h.writeRegion region offset data) := by
  unfold writeRegion
  split
  · exact retains_insert _ _ _
  · exact Evolution.refl h

theorem serves_iff {h : Host} {alloc : Allocation} :
    (Device.host h).serves .buffer alloc = true ↔
      alloc.device = h.id ∧ (h.blocks.get? alloc.id).isSome = true := by
  have test : (Device.host h).serves .buffer alloc =
      (decide (alloc.device = h.id) && (h.blocks.get? alloc.id).isSome) := rfl
  rw [test, Bool.and_eq_true, decide_eq_true_eq]

/-- A device gives up the block of a handle that it takes, and no other. -/
theorem wp_deallocate_iff (alloc : Allocation) (h : Host) :
    (deallocate alloc).wp
      (fun _ t => (Device.host h).serves .buffer alloc = true ∧
        t = { h with blocks := h.blocks.erase alloc.id })
      (fun _ t => (Device.host h).serves .buffer alloc = false ∧ t = h) h := by
  cases served : (Device.host h).serves .buffer alloc with
  | false =>
    exact (refuses_deallocate served).mono (fun _ _ => False.elim) fun _ _ same => ⟨rfl, same.symm⟩
  | true =>
    obtain ⟨own, here⟩ := serves_iff.1 served
    obtain ⟨b, found⟩ := Option.isSome_iff_exists.1 here
    rw [deallocate, discard_bind]
    simp [block, checkOwner, own, found]

end Host

namespace WorldCall

/-- What is asked of a world in which all devices are hosts and the registry stays the same. -/
def ofHosts : WorldCall → Bool
  | .newRegistry _ | .addRemote _ | .createGpu _ | .launch .. | .launchLocal .. | .waitStream ..
  | .client .. => false
  | _ => true

end WorldCall

namespace World

variable {α : Type} {key : DeviceKey} {w w' : World}

/-! ## Registered devices -/

/-- A handle has no id, or that of a registered device. -/
theorem assigned_of_id {d : Device} {id : DeviceId} (own : id = d.id) (has : id ≠ .unassigned) :
    d.assigned = some id := by
  subst own
  cases slot : d.assigned with
  | none => exact absurd (by rw [Device.id, slot, Option.getD_none]) has
  | some id => rw [Device.id, slot, Option.getD_some]

theorem id_of_assigned {d : Device} {id : DeviceId} (has : d.assigned = some id) : d.id = id := by
  rw [Device.id, has, Option.getD_some]

/-- The registry finds each of its devices by the id of the device, as long as it has an id for
each. -/
def Listed (w : World) : Prop :=
  w.registry.size ≤ UInt32.size →
    ∀ ⦃key id⦄, w.slot? key = some (some id) → w.registry.find? id = some key

theorem Listed.of_slots (h : w.Listed) (registry : w'.registry = w.registry)
    (slots : ∀ {key id}, w'.slot? key = some (some id) → w.slot? key = some (some id)) :
    w'.Listed := fun few _ _ filled => registry ▸ h (registry ▸ few) (slots filled)

theorem slot?_erase {gone : DeviceKey} {slot : Option DeviceId}
    (there : World.slot? { w with devices := w.devices.erase gone } key = some slot) :
    w.slot? key = some slot := by
  obtain ⟨d, found, rfl⟩ := Option.map_eq_some_iff.1 there
  exact Option.map_eq_some_iff.2 ⟨d, SortedMap.get?_of_erase found, rfl⟩

/-- What a registry found, it finds when one more device was entered. -/
theorem find?_append {r : Registry} {key new : DeviceKey} {id : DeviceId}
    (found : r.find? id = some key) :
    Registry.find? { r with members := r.members ++ [new] } id = some key := by
  have before : r.members[id.index.toNat]? = some key := found
  have within := (List.getElem?_eq_some_iff.1 before).1
  exact (List.getElem?_append_left within).trans before

/-- A device that is registered gets the next id. -/
theorem RegisterEnd.listed {result : Except Fault DeviceId} (h : w.Listed)
    (ended : RegisterEnd w key result w') : w'.Listed := by
  cases ended with
  | full | unknown | taken => exact h
  | entered room empty registry slots nextKey =>
    intro few k id filled
    rw [registry, Registry.size, List.length_append] at few
    have small : w.registry.size < UInt32.size := few
    rw [registry]
    rw [slots] at filled
    split at filled
    · rename_i same
      cases filled
      rw [same, Registry.find?, UInt32.toNat_ofNat_of_lt' small]
      exact List.getElem?_concat_length
    · exact find?_append (h (Nat.le_of_lt small) filled)

/-- The key was given to a device with this id: the device has it as long as it lives, and the
registry keeps the key for longer. -/
structure Named (w : World) (key : DeviceKey) (id : DeviceId) : Prop where
  keyed : key < w.nextKey
  slot : ∀ {slot}, w.slot? key = some slot → slot = some id
  listed : w.registry.size ≤ UInt32.size → w.registry.find? id = some key

theorem Bystands.named {id : DeviceId} (step : w.Bystands w') (h : w.Named key id) :
    w'.Named key id := by
  refine ⟨Nat.lt_of_lt_of_le h.keyed step.nextKey, fun there => ?_, fun few => ?_⟩
  · rcases step.slots key with same | ⟨new, -⟩
    · exact h.slot (same.symm.trans there)
    · exact absurd h.keyed (Nat.not_lt.2 new)
  · rw [step.registry] at few ⊢
    exact h.listed few

theorem RegisterEnd.named {other : DeviceKey} {id : DeviceId} {result : Except Fault DeviceId}
    (h : w.Named key id) (ended : RegisterEnd w other result w') : w'.Named key id := by
  cases ended with
  | full | unknown | taken => exact h
  | entered room empty registry slots nextKey =>
    refine ⟨nextKey ▸ h.keyed, fun there => ?_, fun few => ?_⟩
    · rw [slots] at there
      split at there
      · rename_i same
        cases h.slot (same ▸ empty)
      · exact h.slot there
    · rw [registry] at few ⊢
      rw [Registry.size, List.length_append] at few
      exact find?_append (h.listed (Nat.le_of_lt few))

/-! ## Blocks behind handles -/

/-- All devices are host memory. -/
def Hosts (w : World) : Prop :=
  ∀ ⦃key d⦄, w.devices.get? key = some d → ∃ h, d = .host h

/-- The key was given to a device that has a block behind the id, if it lives. -/
structure Backed (w : World) (key : DeviceKey) (id : UInt32) : Prop where
  keyed : key < w.nextKey
  block : ∀ {d}, w.devices.get? key = some d → d.holds .buffer id = true

/-- Devices stay host memory, and no block goes but the one that is lost. -/
structure Spares (lost : Option (DeviceKey × UInt32)) (w w' : World) : Prop where
  hosts : w.Hosts → w'.Hosts
  backed : ∀ {key id}, w.Hosts → lost ≠ some (key, id) → w.Backed key id → w'.Backed key id

variable {lost : Option (DeviceKey × UInt32)}

instance : Evolution (Spares lost) where
  refl _ := ⟨fun hosts => hosts, fun _ _ backed => backed⟩
  trans first second := by
    refine ⟨fun hosts => second.hosts (first.hosts hosts), fun hosts stays backed => ?_⟩
    exact second.backed (first.hosts hosts) stays (first.backed hosts stays backed)

/-- No device came, and none was changed. -/
theorem Spares.of_devices (nextKey : w'.nextKey = w.nextKey)
    (old : ∀ {key d}, w'.devices.get? key = some d → w.devices.get? key = some d) :
    Spares lost w w' :=
  ⟨fun hosts _ _ found => hosts (old found),
    fun _ _ backed => ⟨nextKey ▸ backed.keyed, fun found => backed.block (old found)⟩⟩

/-- A device may be put in the place of another, if it is host memory with all blocks of the other
but the one that is lost. -/
theorem Spares.put {h h' : Host} {p : Platform} (found : w.devices.get? key = some (.host h))
    (kept : ∀ id, lost ≠ some (key, id) → (h.blocks.get? id).isSome = true →
      (h'.blocks.get? id).isSome = true) :
    Spares lost w (w.put key (.host h') p) := by
  refine ⟨fun hosts k d here => ?_, fun {k id} _ stays backed => ⟨backed.keyed, fun here => ?_⟩⟩
  · rw [get?_put] at here
    split at here
    · cases here
      exact ⟨h', rfl⟩
    · exact hosts here
  · rw [get?_put] at here
    split at here
    · rename_i same
      subst same
      cases here
      exact kept id stays (backed.block found)
    · exact backed.block here

theorem Spares.of_retains {h h' : Host} {p : Platform}
    (found : w.devices.get? key = some (.host h)) (step : h.Retains h') :
    Spares lost w (w.put key (.host h') p) := .put found fun id _ => step id

/-- Whatever other devices do, there are none. -/
theorem Spares.of_foreign {d : Device} (found : w.devices.get? key = some d)
    (foreign : ∀ h, d ≠ .host h) : Spares lost w w' := by
  have none (hosts : w.Hosts) : False := (hosts found).elim foreign
  exact ⟨fun hosts => (none hosts).elim, fun hosts => (none hosts).elim⟩

theorem Spares.of_gpu {g : Gpu} (found : w.devices.get? key = some (.gpu g)) : Spares lost w w' :=
  .of_foreign found nofun

theorem Spares.of_remote {r : Remote} (found : w.devices.get? key = some (.remote r)) :
    Spares lost w w' := .of_foreign found nofun

theorem spares_onDevice (key : DeviceKey) {host : Action Host α} {gpu : Action (Live Gpu) α}
    {remote : Action (Live Remote) α} (onHost : host.Evolves Host.Retains) :
    (onDevice key host gpu remote).Evolves (Spares lost) :=
  evolves_onDevice onHost (.any gpu) (.any remote) (fun _ _ _ => .of_retains)
    (fun _ _ _ found _ => .of_gpu found) fun _ _ _ found _ => .of_remote found

theorem spares_addHost (memory : Nat) :
    (addDevice (.host { memory })).Evolves (Spares lost) := by
  refine fun w => ⟨fun hosts k d here => ?_, fun _ _ backed => ?_⟩
  · rcases SortedMap.get?_of_insert here with ⟨-, rfl⟩ | old
    · exact ⟨_, rfl⟩
    · exact hosts old
  · refine ⟨Nat.lt_succ_of_lt backed.keyed, fun here => ?_⟩
    rcases SortedMap.get?_of_insert here with ⟨same, -⟩ | old
    · exact absurd backed.keyed (same ▸ Nat.lt_irrefl _)
    · exact backed.block old

/-- A device that is given an id keeps its blocks. -/
theorem spares_register (key : DeviceKey) : (register key).Evolves (Spares lost) := by
  intro w
  simp only [register, wp_bind, wp_get, wp_checked, wp_set, wp_pure]
  refine ⟨?_, fun _ _ => Evolution.refl w⟩
  rintro ⟨_, registry, devices⟩ registered
  unfold Registry.register at registered
  split at registered
  · cases registered
  · split at registered
    · cases registered
    · rename_i d found
      split at registered
      · cases registered
      · cases registered
        cases d with
        | host h =>
          have step (id : DeviceId) :
              Spares lost w (w.put key ((Device.host h).withId id) w.platform) :=
            .of_retains found fun _ here => here
          exact Evolution.trans (step _) (.of_devices rfl fun found => found)
        | gpu g => exact .of_gpu found
        | remote r => exact .of_remote found

theorem spares_stage (key : DeviceKey) (dst : Pointer) (src : Range) (source : DeviceKey) :
    (stage key dst src source).Evolves (Spares lost) :=
  (spares_onDevice source (Host.evolves_readRange src)).bind fun _ =>
    spares_onDevice key (Host.evolves_writeRange dst _)

theorem spares_transfer (key : DeviceKey) (dst : Pointer) (src : Range) (source : DeviceKey) :
    (transfer key dst src source).Evolves (Spares lost) := by
  refine (evolves_device key).bind fun d => ?_
  cases d with
  | gpu g =>
    exact (spares_onDevice key (.throw _)).bind fun copied =>
      .ite (spares_stage _ _ _ _) (.pure _)
  | host | remote => exact (Evolves.require _ _).bind fun _ => spares_stage _ _ _ _

theorem spares_writeRegion (w : World) (key : DeviceKey) (region : MappedRegion) (offset : Nat)
    (data : Storage) : Spares lost w (w.writeRegion key region offset data) := by
  unfold writeRegion
  split
  · rename_i h found
    exact Spares.of_retains (p := w.platform) found (h.retains_writeRegion region offset data)
  · rename_i g found
    exact .of_gpu found
  · exact Evolution.refl w

/-- A device that gives up a block gives up no other. -/
theorem spares_deallocate (key : DeviceKey) (alloc : Allocation) (w : World) :
    Spares (WorldCall.retires? (.deallocate key alloc) w) w
      ((deallocate key alloc).outcome w).2 := by
  have kept : (deallocate key alloc).wp (fun _ w' => Spares (some (key, alloc.id)) w w')
      (fun _ w' => ∀ lost, Spares lost w w') w := by
    rw [deallocate, wp_onDevice]
    split
    · exact fun _ => Evolution.refl w
    · rename_i h found
      refine (Host.wp_deallocate_iff alloc h).mono ?_ ?_
      · rintro _ _ ⟨-, rfl⟩
        refine .put found fun id stays here => (SortedMap.isSome_erase _ _ _).2 ⟨?_, here⟩
        rintro rfl
        exact stays rfl
      · rintro _ _ ⟨-, rfl⟩ lost
        exact .of_retains found (Evolution.refl _)
    · rename_i g found
      have away := Evolves.any (Gpu.deallocate alloc) ⟨w.platform, g⟩
      exact away.mono (fun _ _ _ => .of_gpu found) fun _ _ _ _ => .of_gpu found
    · rename_i r found
      have away := Evolves.any (Remote.deallocate alloc) ⟨w.platform, r⟩
      exact away.mono (fun _ _ _ => .of_remote found) fun _ _ _ _ => .of_remote found
  cases ended : (deallocate key alloc).outcome w with
  | mk result w' =>
    cases result with
    | error e => exact kept.failed ended _
    | ok x =>
      have lost : WorldCall.retires? (.deallocate key alloc) w = some (key, alloc.id) := by
        simp [WorldCall.retires?, WorldCall.returns?, ended, Except.toOption]
      rw [lost]
      exact kept.ended ended

end World

namespace WorldCall

open World

variable {w : World} {call : WorldCall} {key : DeviceKey}

/-- A call over hosts registers a device, removes one, or leaves all ids alone. -/
theorem ofHosts_cases (ofHosts : call.ofHosts = true) :
    (∃ key, call = .register key) ∨ (∃ key, call = .remove key) ∨ call.bystands = true := by
  cases call with
  | register key => exact .inl ⟨key, rfl⟩
  | remove key => exact .inr (.inl ⟨key, rfl⟩)
  | newRegistry | addRemote | createGpu | launch | launchLocal | waitStream | client =>
    cases ofHosts
  | _ => exact .inr (.inr rfl)

theorem listed (ofHosts : call.ofHosts = true) (h : w.Listed) :
    (call.run.outcome w).2.Listed := by
  rcases ofHosts_cases ofHosts with ⟨key, rfl⟩ | ⟨key, rfl⟩ | aside
  · rw [run, outcome_discard]
    exact (register_ends w key).listed h
  · exact h.of_slots rfl slot?_erase
  · have step := (evolves_bystands aside).outcome w
    refine h.of_slots step.registry fun {key id} filled => ?_
    rcases step.slots key with same | ⟨-, empty⟩
    · exact same.symm.trans filled
    · cases empty.symm.trans filled

theorem named {id : DeviceId} (ofHosts : call.ofHosts = true) (h : w.Named key id) :
    (call.run.outcome w).2.Named key id := by
  rcases ofHosts_cases ofHosts with ⟨key, rfl⟩ | ⟨key, rfl⟩ | aside
  · rw [run, outcome_discard]
    exact (register_ends w key).named h
  · exact ⟨h.keyed, fun there => h.slot (slot?_erase there), h.listed⟩
  · exact ((evolves_bystands aside).outcome w).named h

/-- No block goes but the one that the call gives up. -/
theorem spares (ofHosts : call.ofHosts = true) :
    Spares (call.retires? w) w (call.run.outcome w).2 := by
  generalize named : call.retires? w = lost
  have waits (gpu : Action (Live Gpu) Unit) (key : DeviceKey) (call : RemoteCall) :
      (onDevice key (pure ()) gpu (Remote.receive call)).Evolves (Spares lost) :=
    spares_onDevice key (.pure _)
  cases call with
  | newRegistry | addRemote | createGpu | launch | launchLocal | waitStream | client =>
    cases ofHosts
  | deallocate key alloc =>
    rw [← named]
    exact spares_deallocate key alloc w
  | writeRegion key region offset data => exact spares_writeRegion w key region offset data
  | script answers => exact .of_devices rfl fun found => found
  | remove key => exact .of_devices rfl SortedMap.get?_of_erase
  | addHost memory => exact (spares_addHost memory).discard.outcome w
  | register key => exact (spares_register key).discard.outcome w
  | allocate key params =>
    have kept : (Host.allocate params).Evolves Host.Retains := fun h =>
      (Host.wp_allocate_retains params h).mono (fun _ _ => And.left) fun _ _ step => step
    exact (spares_onDevice key kept).discard.outcome w
  | mapRange key start size =>
    exact (spares_onDevice key (Host.evolves_mapRange start size)).discard.outcome w
  | unmap key alloc =>
    have kept : (World.unmap key alloc).Evolves (Spares lost) :=
      spares_onDevice key (Host.evolves_unmap alloc)
    exact kept.outcome w
  | read key range => exact (spares_onDevice key (Host.evolves_readRange range)).discard.outcome w
  | write key dst data => exact (spares_onDevice key (Host.evolves_writeRange dst data)).outcome w
  | barrier key range => exact (waits (pure ()) key _).outcome w
  | syncAll key => exact (waits Gpu.waitIdle key _).outcome w
  | syncWrite key range there => exact (evolves_syncWrite (waits _) key range there).outcome w
  | syncRead key range there =>
    exact (evolves_syncRead (waits _) (waits _) key range there).outcome w
  | transfer key dst src source => exact (spares_transfer key dst src source).outcome w

/-- The handle that a call gives, and the device that gives it. -/
def hands? (call : WorldCall) (w : World) : Option (DeviceKey × Allocation) :=
  call.asks?.bind fun (key, ask) => (ask.outcome w).1.toOption.map fun alloc => (key, alloc)

/-- A handle that a host gives has the id of the host, and a block behind it. -/
theorem hands?_eq_some {alloc : Allocation} (ofHosts : call.ofHosts = true) (hosts : w.Hosts)
    (hands : call.hands? w = some (key, alloc)) :
    ∃ d d', w.devices.get? key = some d ∧ (call.run.outcome w).2.devices.get? key = some d' ∧
      alloc.device = d.id ∧ d'.assigned = d.assigned ∧ d'.holds .buffer alloc.id = true := by
  obtain ⟨⟨key, ask⟩, asks, answer⟩ := Option.bind_eq_some_iff.1 hands
  obtain ⟨alloc, got, same⟩ := Option.map_eq_some_iff.1 answer
  cases same
  unfold asks? at asks
  split at asks
  · rename_i params
    cases asks
    have spec : (World.allocate key params).wp (fun alloc w' => ∃ d d',
        w.devices.get? key = some d ∧ w'.devices.get? key = some d' ∧ alloc.device = d.id ∧
          d'.assigned = d.assigned ∧ d'.holds .buffer alloc.id = true) (fun _ _ => True) w := by
      rw [World.allocate, wp_onDevice]
      split
      · trivial
      · rename_i h found
        refine (Host.wp_allocate_retains params h).mono ?_ fun _ _ _ => trivial
        rintro alloc t ⟨-, own, same, here⟩
        exact ⟨.host h, .host t, found, by rw [get?_put, if_pos rfl], own, same, here⟩
      all_goals
        rename_i found
        cases (hosts found).choose_spec
    rw [run, outcome_discard]
    exact spec.ended (ended_of_toOption got)
  · cases ofHosts
  · cases asks

end WorldCall

namespace World

variable {w : World} {calls : List WorldCall} {key : DeviceKey} {alloc : Allocation}

/-- What a run over hosts keeps. -/
structure Orderly (w : World) : Prop where
  sound : w.Sound
  hosts : w.Hosts
  listed : w.Listed

theorem Orderly.step {call : WorldCall} (h : w.Orderly) (ofHosts : call.ofHosts = true) :
    (call.run.outcome w).2.Orderly :=
  ⟨(call.ages.outcome w).sound h.sound, (call.spares ofHosts).hosts h.hosts,
    call.listed ofHosts h.listed⟩

theorem Orderly.after (h : w.Orderly) (ofHosts : ∀ call ∈ calls, call.ofHosts = true) :
    (w.after calls).Orderly := by
  induction calls generalizing w with
  | nil => exact h
  | cons call calls ih =>
    obtain ⟨first, rest⟩ := List.forall_mem_cons.1 ofHosts
    exact ih (h.step first) rest

/-- A device that has an id keeps it, and the registry finds the device by it. -/
theorem named_after {id : DeviceId} (named : w.Named key id)
    (ofHosts : ∀ call ∈ calls, call.ofHosts = true) : (w.after calls).Named key id := by
  induction calls generalizing w with
  | nil => exact named
  | cons call calls ih =>
    obtain ⟨first, rest⟩ := List.forall_mem_cons.1 ofHosts
    exact ih (call.named first named) rest

/-- A block is there until it is given up. -/
theorem backed_after {id : UInt32} (hosts : w.Hosts) (backed : w.Backed key id)
    (ofHosts : ∀ call ∈ calls, call.ofHosts = true) (kept : (key, id) ∉ w.retired calls) :
    (w.after calls).Backed key id := by
  induction calls generalizing w with
  | nil => exact backed
  | cons call calls ih =>
    obtain ⟨first, rest⟩ := List.forall_mem_cons.1 ofHosts
    obtain ⟨now, later⟩ := not_or.1 (mt List.mem_append.2 kept)
    have step := call.spares (w := w) first
    have stays : call.retires? w ≠ some (key, id) := fun lost => now (Option.mem_toList.2 lost)
    exact ih (step.hosts hosts) (step.backed hosts stays backed) rest later

/-- The handles that devices give in a run, in order. -/
def handed : World → List WorldCall → List (DeviceKey × Allocation) := gathered WorldCall.hands?

/-- A handle that a device gave has a block behind it until it is given up. If it has an id, that is
the id of the device from then on. -/
theorem handed_after (h : w.Orderly) (ofHosts : ∀ call ∈ calls, call.ofHosts = true)
    (gave : (key, alloc) ∈ w.handed calls) :
    ((key, alloc.id) ∉ w.retired calls → (w.after calls).Backed key alloc.id) ∧
      (alloc.device ≠ .unassigned → (w.after calls).Named key alloc.device) := by
  induction calls generalizing w with
  | nil => cases gave
  | cons call calls ih =>
    obtain ⟨first, rest⟩ := List.forall_mem_cons.1 ofHosts
    have next := h.step first
    rcases List.mem_append.1 gave with now | later
    · obtain ⟨d, d', found, found', own, same, here⟩ :=
        WorldCall.hands?_eq_some first h.hosts (Option.mem_toList.1 now)
      have keyed := next.sound.keyed found'
      have backed : (call.run.outcome w).2.Backed key alloc.id := by
        refine ⟨keyed, fun there => ?_⟩
        cases found'.symm.trans there
        exact here
      have named (assigned : alloc.device ≠ .unassigned) :
          (call.run.outcome w).2.Named key alloc.device := by
        have filled : (call.run.outcome w).2.slot? key = some (some alloc.device) := by
          rw [slot?, found', Option.map_some, same, assigned_of_id own assigned]
        refine ⟨keyed, fun there => ?_, fun few => next.listed few filled⟩
        exact (Option.some.inj (filled.symm.trans there)).symm
      have ran : w.after (call :: calls) = (call.run.outcome w).2.after calls := rfl
      rw [ran]
      refine ⟨fun kept => backed_after next.hosts backed rest fun lost => ?_,
        fun assigned => named_after (named assigned) rest⟩
      exact kept (List.mem_append_right _ lost)
    · obtain ⟨backed, named⟩ := ih next rest later
      exact ⟨fun kept => backed fun lost => kept (List.mem_append_right _ lost), named⟩

/-- What is gathered is of some call of the run. -/
theorem mem_gathered {β : Type} {note : WorldCall → World → Option β} {x : β}
    (member : x ∈ gathered note w calls) :
    ∃ before call rest, calls = before ++ call :: rest ∧
      note call (w.after before) = some x := by
  induction calls generalizing w with
  | nil => cases member
  | cons call calls ih =>
    rcases List.mem_append.1 member with now | later
    · exact ⟨[], call, calls, rfl, Option.mem_toList.1 now⟩
    · obtain ⟨before, next, rest, rfl, noted⟩ := ih later
      exact ⟨call :: before, next, rest, rfl, noted⟩

/-! ## Which devices take a handle -/

/-- The handle is not null, the device that gave it takes it for as long as it did not take it back,
and no other device takes it. -/
structure SafeHandle (w : World) (retired : List (DeviceKey × UInt32)) (key : DeviceKey)
    (alloc : Allocation) : Prop where
  nonNull : (alloc.pointer 0).isNull = false
  own : (key, alloc.id) ∉ retired → ∀ {d}, w.devices.get? key = some d →
    w.Serves key .buffer alloc
  others : ∀ other, other ≠ key → ¬w.Serves other .buffer alloc

/-- A device takes a handle if and only if it gives up the block when it is asked to. -/
theorem serves_iff_deallocates (hosts : w.Hosts) :
    w.Serves key .buffer alloc ↔ ((deallocate key alloc).outcome w).1.isOk = true := by
  have spec : (deallocate key alloc).wp (fun _ _ => w.Serves key .buffer alloc)
      (fun _ _ => ¬w.Serves key .buffer alloc) w := by
    rw [deallocate, wp_onDevice]
    split
    · rename_i none
      rintro ⟨d, found, -⟩
      cases none.symm.trans found
    · rename_i h found
      refine (Host.wp_deallocate_iff alloc h).mono (fun _ _ took => ⟨_, found, took.1⟩) ?_
      rintro _ _ ⟨refused, -⟩ ⟨d, found', took⟩
      cases found.symm.trans found'
      exact Bool.eq_false_iff.1 refused took
    all_goals
      rename_i found
      cases (hosts found).choose_spec
  cases ended : (deallocate key alloc).outcome w with
  | mk result w' =>
    cases result with
    | ok => exact iff_of_true (spec.ended ended) rfl
    | error => exact iff_of_false (spec.failed ended) Bool.false_ne_true

/-- What becomes of a handle that a device gave in a run. -/
structure HandleLaw (start : World) (calls : List WorldCall) (key : DeviceKey)
    (alloc : Allocation) : Prop where
  /-- It has the id that the device had when it was asked. -/
  asked : ∃ before call rest d, calls = before ++ call :: rest ∧
    call.hands? (start.after before) = some (key, alloc) ∧
    (start.after before).devices.get? key = some d ∧ alloc.device = d.id
  /-- The device takes it until it is given up, as long as that is still the id of the device. -/
  own : (start.after calls).Serves key .buffer alloc ↔
    (key, alloc.id) ∉ start.retired calls ∧
      ∃ d, (start.after calls).devices.get? key = some d ∧ alloc.device = d.id
  /-- Only with no id it may be taken by another, which has none either. -/
  others : ∀ other, other ≠ key → ((start.after calls).Serves other .buffer alloc ↔
    alloc.device = .unassigned ∧ ∃ d, (start.after calls).devices.get? other = some d ∧
      d.id = .unassigned ∧ d.holds .buffer alloc.id = true)
  /-- With an id it is safe. -/
  safe_iff : (start.after calls).SafeHandle (start.retired calls) key alloc ↔
    alloc.device ≠ .unassigned

variable {start : World}

/-- The device that gave a handle takes it until it is given up, while it has the same id. -/
theorem handed_own (h : start.Orderly) (ofHosts : ∀ call ∈ calls, call.ofHosts = true)
    (gave : (key, alloc) ∈ start.handed calls) :
    (start.after calls).Serves key .buffer alloc ↔ (key, alloc.id) ∉ start.retired calls ∧
      ∃ d, (start.after calls).devices.get? key = some d ∧ alloc.device = d.id := by
  have hosts := (h.after ofHosts).hosts
  constructor
  · rintro ⟨d, found, took⟩
    obtain ⟨host, rfl⟩ := hosts found
    obtain ⟨own, here⟩ := Host.serves_iff.1 took
    refine ⟨fun lost => ?_, _, found, own⟩
    have spent := (spent_of_retired h.sound lost).spent found rfl
    exact Bool.eq_false_iff.1 (spent.gone .buffer) here
  · rintro ⟨kept, d, found, own⟩
    obtain ⟨host, rfl⟩ := hosts found
    have backed := (handed_after h ofHosts gave).1 kept
    exact ⟨_, found, Host.serves_iff.2 ⟨own, backed.block found⟩⟩

/-- No device takes the handle of another, unless neither has an id. -/
theorem handed_others (h : start.Orderly) (ofHosts : ∀ call ∈ calls, call.ofHosts = true)
    (few : (start.after calls).registry.size ≤ UInt32.size)
    (gave : (key, alloc) ∈ start.handed calls) {other : DeviceKey} (differs : other ≠ key) :
    (start.after calls).Serves other .buffer alloc ↔
      alloc.device = .unassigned ∧ ∃ d, (start.after calls).devices.get? other = some d ∧
        d.id = .unassigned ∧ d.holds .buffer alloc.id = true := by
  have orderly := h.after ofHosts
  constructor
  · rintro ⟨d, found, took⟩
    obtain ⟨host, rfl⟩ := orderly.hosts found
    obtain ⟨own, here⟩ := Host.serves_iff.1 took
    by_cases assigned : alloc.device = .unassigned
    · exact ⟨assigned, _, found, own.symm.trans assigned, here⟩
    · -- The registry finds both devices by the id.
      have filled : (start.after calls).slot? other = some (some alloc.device) := by
        rw [slot?, found, Option.map_some, assigned_of_id own assigned]
      have named := (handed_after h ofHosts gave).2 assigned
      have there := (orderly.listed few filled).symm.trans (named.listed few)
      exact absurd (Option.some.inj there) differs
  · rintro ⟨unassigned, d, found, id, here⟩
    obtain ⟨host, rfl⟩ := orderly.hosts found
    exact ⟨_, found, Host.serves_iff.2 ⟨unassigned.trans id.symm, here⟩⟩

theorem handleLaw (h : start.Orderly) (ofHosts : ∀ call ∈ calls, call.ofHosts = true)
    (few : (start.after calls).registry.size ≤ UInt32.size)
    (gave : (key, alloc) ∈ start.handed calls) : HandleLaw start calls key alloc where
  asked := by
    obtain ⟨before, call, rest, rfl, hands⟩ := mem_gathered gave
    obtain ⟨sooner, later⟩ := List.forall_mem_append.1 ofHosts
    obtain ⟨d, -, found, -, id, -⟩ := WorldCall.hands?_eq_some
      (List.forall_mem_cons.1 later).1 (h.after sooner).hosts hands
    exact ⟨before, call, rest, d, rfl, hands, found, id⟩
  own := handed_own h ofHosts gave
  others _ := handed_others h ofHosts few gave
  safe_iff := by
    refine ⟨fun safe => of_decide_eq_false safe.nonNull, fun assigned => ?_⟩
    refine ⟨decide_eq_false assigned, fun kept d found => ?_, fun other differs took => ?_⟩
    · have named := (handed_after h ofHosts gave).2 assigned
      have slot : (start.after calls).slot? key = some d.assigned := by
        rw [slot?, found, Option.map_some]
      have id := id_of_assigned (named.slot slot)
      exact (handed_own h ofHosts gave).2 ⟨kept, d, found, id.symm⟩
    · exact assigned ((handed_others h ofHosts few gave differs).1 took).1

/-- A world with no devices yet, and a registry for so many. -/
def vacant (capacity : Nat) : World := { registry := { capacity } }

theorem orderly_vacant (capacity : Nat) : (vacant capacity).Orderly := by
  have empty (key : DeviceKey) : (vacant capacity).devices.get? key = none := rfl
  refine ⟨⟨nofun, nofun⟩, fun key d found => ?_, fun _ key id filled => ?_⟩
  · cases (empty key).symm.trans found
  · rw [slot?, empty] at filled
    cases filled

/-- In a run over host devices and one registry, in which devices are registered at any point or
never: each handle that a device gave is safe if and only if the device had an id when it was asked.
A device takes a handle if it gives up its block when asked to, and otherwise refuses every request
that has the handle. -/
theorem handles_of_hosts (capacity : Nat) (calls : List WorldCall)
    (ofHosts : ∀ call ∈ calls, call.ofHosts = true)
    (few : ((vacant capacity).after calls).registry.size ≤ UInt32.size) :
    let w := (vacant capacity).after calls
    (∀ key alloc, (key, alloc) ∈ (vacant capacity).handed calls →
      HandleLaw (vacant capacity) calls key alloc) ∧
    ∀ key alloc,
      (w.Serves key .buffer alloc ↔ ((deallocate key alloc).outcome w).1.isOk = true) ∧
      (¬w.Serves key .buffer alloc → ∀ request : MemoryRequest, alloc ∈ request.handles →
        Refuses Intact (request.run key) w) := by
  intro w
  have orderly := orderly_vacant capacity
  refine ⟨fun key alloc gave => handleLaw orderly ofHosts few gave, fun key alloc => ⟨?_, ?_⟩⟩
  · exact serves_iff_deallocates (orderly.after ofHosts).hosts
  · exact fun stale request given => MemoryRequest.refused given stale

/-- Two devices are asked for a handle when both are registered. -/
def registeredFirst : List WorldCall :=
  [.addHost 64, .register 0, .addHost 64, .register 1, .allocate 0 (.hostVisible 4),
    .allocate 1 (.hostVisible 4)]

theorem handles_of_hosts_registered :
    let w := (vacant 2).after registeredFirst
    w.SafeHandle [] 0 ⟨⟨0⟩, 0⟩ ∧ w.SafeHandle [] 1 ⟨⟨1⟩, 0⟩ := by
  have law := (handles_of_hosts 2 registeredFirst (by decide) (by decide +kernel)).1
  have none : (vacant 2).retired registeredFirst = [] := by decide +kernel
  rw [← none]
  exact ⟨(law 0 ⟨⟨0⟩, 0⟩ (by decide +kernel)).safe_iff.2 (by decide),
    (law 1 ⟨⟨1⟩, 0⟩ (by decide +kernel)).safe_iff.2 (by decide)⟩

/-- A device is asked for a handle and is registered after that. -/
def registeredLate : List WorldCall := [.addHost 64, .allocate 0 (.hostVisible 4), .register 0]

/-- Two devices are asked for a handle, and neither is registered. -/
def registeredNever : List WorldCall :=
  [.addHost 64, .addHost 64, .allocate 0 (.hostVisible 4), .allocate 1 (.hostVisible 4)]

/-- The handle of a device without an id is null. The device refuses it once it is registered, and
before that any other device without an id takes it for its own. -/
theorem handle_without_id :
    let alloc : Allocation := ⟨.unassigned, 0⟩
    (alloc.pointer 0).isNull = true ∧
    ((vacant 256).handed registeredLate = [(0, alloc)] ∧
      (vacant 256).retired registeredLate = [] ∧
      ((deallocate 0 alloc).outcome ((vacant 256).after registeredLate)).1.isOk = false) ∧
    (vacant 256).handed registeredNever = [(0, alloc), (1, alloc)] ∧
      ((deallocate 1 alloc).outcome ((vacant 256).after registeredNever)).1.isOk = true := by
  decide +kernel

end World

end DeviceLayer
