import DeviceLayer.Proofs.Aging

/-!
# Handles over whole runs

Devices of a world come, age and go, and their ids only go up. So no id is given twice, and one that
was given up never has anything behind it again.

* `World.Sound`, `World.Ages`, `WorldCall.ages` — what every call keeps.
* `World.Past`, `World.Spent` — ids that were given, and those with nothing behind them any more.
* `World.given`, `World.retired` — the ids that a run gives, and those that it gives up.
* `World.given_ascends`, `World.spent_of_retired` — ids go up, and do not come back.
-/

namespace DeviceLayer

open DeviceLayer.Action

/-! ## Devices of a world -/

namespace World

/-- Keys were given, and the ids that the devices use. -/
structure Sound (w : World) : Prop where
  keyed : ∀ {key d}, w.devices.get? key = some d → key < w.nextKey
  each : ∀ {key d}, w.devices.get? key = some d → d.Sound

/-- Devices came, aged or went. -/
structure Ages (w w' : World) : Prop where
  nextKey : w.nextKey ≤ w'.nextKey
  devices : ∀ {key d'}, w'.devices.get? key = some d' →
    (∃ d, w.devices.get? key = some d ∧ d.Ages d') ∨ w.nextKey ≤ key
  sound : w.Sound → w'.Sound

variable {α : Type} {key : DeviceKey} {w w' : World}

theorem Ages.of_devices (nextKey : w'.nextKey = w.nextKey) (devices : w'.devices = w.devices) :
    w.Ages w' := by
  refine ⟨Nat.le_of_eq nextKey.symm, fun found => .inl ⟨_, devices ▸ found, .refl _⟩, ?_⟩
  refine fun sound => ⟨fun found => ?_, fun found => sound.each (devices ▸ found)⟩
  rw [nextKey]
  exact sound.keyed (devices ▸ found)

instance : Evolution Ages where
  refl _ := .of_devices rfl rfl
  trans first second := by
    refine ⟨Nat.le_trans first.nextKey second.nextKey, fun found => ?_,
      fun sound => second.sound (first.sound sound)⟩
    rcases second.devices found with ⟨d, found, later⟩ | new
    · exact (first.devices found).imp_left fun ⟨d, found, sooner⟩ => ⟨d, found, sooner.trans later⟩
    · exact .inr (Nat.le_trans first.nextKey new)

theorem Ages.put {d d' : Device} (found : w.devices.get? key = some d) (step : d.Ages d')
    (p : Platform) : w.Ages (w.put key d' p) := by
  have devices {k : DeviceKey} {e : Device} (here : (w.put key d' p).devices.get? k = some e) :
      ∃ e', w.devices.get? k = some e' ∧ e'.Ages e := by
    rw [get?_put] at here
    split at here
    · rename_i same
      cases here
      exact ⟨d, same ▸ found, step⟩
    · exact ⟨e, here, .refl e⟩
  refine ⟨Nat.le_refl _, fun here => .inl (devices here), fun sound => ?_⟩
  refine ⟨fun here => ?_, fun here => ?_⟩
  · obtain ⟨e, before, -⟩ := devices here
    exact sound.keyed before
  · obtain ⟨e, before, aged⟩ := devices here
    exact aged.sound (sound.each before)

theorem ages_onDevice (key : DeviceKey) {host : Action Host α} {gpu : Action (Live Gpu) α}
    {remote : Action (Live Remote) α} (onHost : host.Evolves Host.Ages)
    (onGpu : gpu.Evolves Gpu.Ages) (onRemote : remote.Evolves Remote.Ages) :
    (onDevice key host gpu remote).Evolves Ages :=
  evolves_onDevice onHost onGpu onRemote (fun _ _ _ found step => .put found step _)
    (fun _ _ _ found step => .put found step _) fun _ _ _ found step => .put found step _

theorem ages_addDevice {d : Device} (sound : d.Sound) : (addDevice d).Evolves Ages := by
  intro w
  refine ⟨Nat.le_succ _, fun here => ?_, fun before => ⟨fun here => ?_, fun here => ?_⟩⟩
  · rcases SortedMap.get?_of_insert here with ⟨rfl, -⟩ | old
    · exact .inr (Nat.le_refl _)
    · exact .inl ⟨_, old, .refl _⟩
  · rcases SortedMap.get?_of_insert here with ⟨rfl, -⟩ | old
    · exact Nat.lt_succ_self _
    · exact Nat.lt_succ_of_lt (before.keyed old)
  · rcases SortedMap.get?_of_insert here with ⟨-, rfl⟩ | old
    · exact sound
    · exact before.each old

theorem ages_createGpu (limits : Limits) : (createGpu limits).Evolves Ages := by
  intro w
  have made : (Gpu.create limits).wp (fun g _ => (Device.gpu g).Sound) (fun _ _ => True)
      w.platform := by
    simp only [Gpu.create, wp_bind, wp_ite, wp_throw, wp_modifyGet, Platform.wp_createBuffer,
      wp_get, wp_pure, implies_true, true_and, and_true]
    exact fun _ _ => .of_empty fun role _ => by cases role <;> rfl
  have aside (p : Platform) : Ages w { w with platform := p } := .of_devices rfl rfl
  simp only [createGpu, wp_bind, wp_within]
  refine made.mono (fun g p sound => ?_) fun _ p _ => aside p
  exact (ages_addDevice sound { w with platform := p }).mono
    (fun _ _ => Evolution.trans (aside p)) fun _ _ => Evolution.trans (aside p)

theorem ages_register (key : DeviceKey) : (register key).Evolves Ages := by
  intro w
  simp only [register, wp_bind, wp_get, wp_checked, wp_set, wp_pure]
  refine ⟨?_, fun _ _ => Evolution.refl w⟩
  rintro ⟨id, registry, devices⟩ registered
  unfold Registry.register at registered
  split at registered
  · cases registered
  · split at registered
    · cases registered
    · rename_i d found
      split at registered
      · cases registered
      · cases registered
        exact Evolution.trans (Ages.put found (d.ages_withId _) w.platform) (.of_devices rfl rfl)

theorem Ages.erase (w : World) (key : DeviceKey) :
    w.Ages { w with devices := w.devices.erase key } := by
  refine ⟨Nat.le_refl _, fun here => ?_, fun sound => ⟨fun here => ?_, fun here => ?_⟩⟩
  · exact .inl ⟨_, SortedMap.get?_of_erase here, .refl _⟩
  · exact sound.keyed (SortedMap.get?_of_erase here)
  · exact sound.each (SortedMap.get?_of_erase here)

/-- A device of any kind that was asked for a handle ages, and gives one that is its own. -/
theorem ages_giving (key : DeviceKey) {host : Action Host Allocation}
    {gpu : Action (Live Gpu) Allocation} {remote : Action (Live Remote) Allocation}
    (onHost : ∀ h, host.wp
      (fun alloc t => Host.Ages h t ∧ (Device.host h).Gives alloc (.host t))
      (fun _ t => Host.Ages h t) h)
    (onGpu : ∀ s, gpu.wp
      (fun alloc t => Gpu.Ages s t ∧ (Device.gpu s.device).Gives alloc (.gpu t.device))
      (fun _ t => Gpu.Ages s t) s)
    (onRemote : ∀ s, remote.wp
      (fun alloc t => Remote.Ages s t ∧ (Device.remote s.device).Gives alloc (.remote t.device))
      (fun _ t => Remote.Ages s t) s)
    (w : World) :
    (onDevice key host gpu remote).wp
      (fun alloc w' => w.Ages w' ∧ ∃ d d', w.devices.get? key = some d ∧
        w'.devices.get? key = some d' ∧ d.Gives alloc d')
      (fun _ w' => w.Ages w') w := by
  have given {d d' : Device} {alloc : Allocation} {p : Platform}
      (found : w.devices.get? key = some d) (step : d.Ages d') (gives : d.Gives alloc d') :
      w.Ages (w.put key d' p) ∧ ∃ d d'', w.devices.get? key = some d ∧
        (w.put key d' p).devices.get? key = some d'' ∧ d.Gives alloc d'' :=
    ⟨.put found step p, d, d', found, by rw [get?_put, if_pos rfl], gives⟩
  rw [wp_onDevice]
  split
  · exact Evolution.refl w
  · rename_i h found
    exact (onHost h).mono (fun _ _ ⟨step, gives⟩ => given found step gives)
      fun _ _ step => .put found step _
  · rename_i g found
    exact (onGpu _).mono (fun _ _ ⟨step, gives⟩ => given found step gives)
      fun _ _ step => .put found step _
  · rename_i r found
    exact (onRemote _).mono (fun _ _ ⟨step, gives⟩ => given found step gives)
      fun _ _ step => .put found step _

theorem ages_allocate (key : DeviceKey) (params : AllocParams) :
    (allocate key params).Evolves Ages := fun w =>
  (ages_giving key (Host.ages_allocate params) (Gpu.ages_allocate params)
    (Remote.ages_allocate params) w).mono (fun _ _ => And.left) fun _ _ step => step

/-- An id that a device gave, or did before it was removed. -/
structure Past (w : World) (key : DeviceKey) (id : UInt32) : Prop where
  keyed : key < w.nextKey
  given : ∀ {d}, w.devices.get? key = some d → id < d.nextAlloc

/-- An id that nothing is behind any more. -/
structure Spent (w : World) (key : DeviceKey) (id : UInt32) : Prop where
  keyed : key < w.nextKey
  spent : ∀ {d}, w.devices.get? key = some d → d.tracks = true → d.Spent id

theorem Ages.past {id : UInt32} (h : w.Ages w') (past : w.Past key id) : w'.Past key id := by
  refine ⟨Nat.lt_of_lt_of_le past.keyed h.nextKey, fun here => ?_⟩
  rcases h.devices here with ⟨d, before, aged⟩ | new
  · exact UInt32.lt_of_lt_of_le (past.given before) aged.nextAlloc
  · exact absurd past.keyed (Nat.not_lt.2 new)

theorem Ages.spent {id : UInt32} (h : w.Ages w') (spent : w.Spent key id) : w'.Spent key id := by
  refine ⟨Nat.lt_of_lt_of_le spent.keyed h.nextKey, fun here tracks => ?_⟩
  rcases h.devices here with ⟨d, before, aged⟩ | new
  · exact aged.spent (spent.spent before (aged.tracks ▸ tracks))
  · exact absurd spent.keyed (Nat.not_lt.2 new)

/-- A device of any kind that was asked to give a handle up ages, and has nothing behind it then. -/
theorem ages_retiring (key : DeviceKey) (alloc : Allocation) {host : Action Host Unit}
    {gpu : Action (Live Gpu) Unit} {remote : Action (Live Remote) Unit}
    (onHost : ∀ h, host.wp
      (fun _ t => Host.Ages h t ∧ ((Device.host h).Sound → (Device.host t).Spent alloc.id))
      (fun _ t => Host.Ages h t) h)
    (onGpu : ∀ s, gpu.wp
      (fun _ t => Gpu.Ages s t ∧
        ((Device.gpu s.device).Sound → (Device.gpu t.device).Spent alloc.id))
      (fun _ t => Gpu.Ages s t) s)
    (onRemote : remote.Evolves Remote.Ages) (w : World) :
    (onDevice key host gpu remote).wp
      (fun _ w' => w.Ages w' ∧ (w.Sound → w'.Spent key alloc.id)) (fun _ w' => w.Ages w') w := by
  have retired {d d' : Device} {p : Platform} (found : w.devices.get? key = some d)
      (step : d.Ages d') (spent : d'.tracks = true → d.Sound → d'.Spent alloc.id) :
      w.Ages (w.put key d' p) ∧ (w.Sound → (w.put key d' p).Spent key alloc.id) := by
    refine ⟨.put found step p, fun sound => ⟨sound.keyed found, fun here tracks => ?_⟩⟩
    rw [get?_put, if_pos rfl] at here
    cases here
    exact spent tracks (sound.each found)
  rw [wp_onDevice]
  split
  · exact Evolution.refl w
  · rename_i h found
    exact (onHost h).mono (fun _ _ ⟨step, spent⟩ => retired found step fun _ => spent)
      fun _ _ step => .put found step _
  · rename_i g found
    exact (onGpu _).mono (fun _ _ ⟨step, spent⟩ => retired found step fun _ => spent)
      fun _ _ step => .put found step _
  · rename_i r found
    exact (onRemote _).mono (fun _ _ step => retired found step nofun)
      fun _ _ step => .put found step _

theorem ages_deallocate (key : DeviceKey) (alloc : Allocation) :
    (deallocate key alloc).Evolves Ages := fun w =>
  (ages_retiring key alloc (Host.ages_deallocate alloc) (Gpu.ages_deallocate alloc)
    (Remote.ages_deallocate alloc) w).mono (fun _ _ => And.left) fun _ _ step => step

theorem ages_waiting (key : DeviceKey) (call : RemoteCall) {gpu : Action (Live Gpu) Unit}
    (still : gpu.Evolves Gpu.Still) :
    (onDevice key (pure ()) gpu (Remote.receive call)).Evolves Ages :=
  ages_onDevice key (.pure _) (still.mono fun _ _ step => step.keepsTables.ages)
    (Remote.ages_receive call)

theorem ages_steps : Steps Ages where
  script _ _ := .of_devices rfl rfl
  newRegistry _ _ := .of_devices rfl rfl
  addHost _ := ages_addDevice (.of_empty fun role _ => by cases role <;> rfl)
  createGpu := ages_createGpu
  register := ages_register
  remove key w := .erase w key
  allocate := ages_allocate
  deallocate := ages_deallocate
  mapRange key start size :=
    ages_onDevice key (Host.evolves_mapRange start size) (Gpu.ages_mapRange start size) (.throw _)
  unmap key alloc := ages_onDevice key (Host.evolves_unmap alloc) (Gpu.ages_unmap alloc) (.throw _)
  readRange key range := ages_onDevice key (Host.evolves_readRange range)
    ((Gpu.still_readRange range).mono fun _ _ step => step.keepsTables.ages)
    (Remote.ages_listens (Remote.listens_readRange range))
  writeRange key dst data := ages_onDevice key (Host.evolves_writeRange dst data)
    ((Gpu.keepsTables_writeRange dst data).mono fun _ _ step => step.ages)
    (Remote.ages_writeRange dst data)
  copyWithin key dst src := ages_onDevice key (.throw _)
    ((Gpu.keepsTables_copyWithin dst src).mono fun _ _ step => step.ages) (.throw _)
  listens key call := ages_waiting key call (.pure _)
  waits key call := ages_waiting key call (Gpu.framed_wait none)
  launchLocal key stream kernel mapping := ages_onDevice key (.throw _)
    ((Gpu.still_launchLocal stream kernel mapping).mono fun _ _ step => step.keepsTables.ages)
    (Remote.ages_launch stream kernel mapping)
  waitStream key stream := by
    refine ages_onDevice key (.throw _) ?_ (Remote.ages_receive _)
    refine (Evolves.require _ _).bind fun _ => ?_
    exact Gpu.framed_commandSync.mono fun _ _ step => (Gpu.Still.keepsTables step).ages

theorem ages_writeRegion (w : World) (key : DeviceKey) (region : MappedRegion) (offset : Nat)
    (data : Storage) : w.Ages (w.writeRegion key region offset data) := by
  unfold writeRegion
  split
  · rename_i h found
    exact .put found (h.ages_writeRegion region offset data) w.platform
  · rename_i g found
    exact .put found (Gpu.ages_writeRegion ⟨w.platform, g⟩ region offset data) w.platform
  · exact Evolution.refl w

end World

/-- Whatever is asked of a world, no device takes an id back. -/
theorem WorldCall.ages (call : WorldCall) : call.run.Evolves World.Ages := by
  cases call with
  | addRemote device => exact (World.ages_addDevice (.of_empty fun _ _ => rfl)).discard
  | writeRegion key region offset data => exact fun w => w.ages_writeRegion key region offset data
  | client key lists call =>
    refine fun w => (wp_modify _).2 ?_
    split
    · rename_i g found
      exact .put found (call.ages { live := ⟨w.platform, g⟩, lists }) _
    · exact Evolution.refl w
  | _ => exact WorldCall.evolves World.ages_steps _ rfl

/-! ## Handles that are given and given up -/

theorem ended_of_toOption {σ α : Type} {o : Except Fault α × σ} {x : α}
    (ended : o.1.toOption = some x) : o = (.ok x, o.2) := by
  obtain ⟨result, t⟩ := o
  cases result with
  | error e => cases ended
  | ok y =>
    cases ended
    rfl

/-- The call as an action that answers with a handle, if it asks for one. -/
def DeviceCall.asks? : DeviceCall → Option (Action (Live Gpu) Allocation)
  | .memory (.allocate params) => some (Gpu.allocate params)
  | .createImage format width height => some (Gpu.createImage format width height)
  | .importImage format width height => some (Gpu.importImage format width height)
  | _ => none

/-- The handle that a call gives up, with the call as an action. -/
def DeviceCall.returns? : DeviceCall → Option (Allocation × Action (Live Gpu) Unit)
  | .memory (.deallocate alloc) => some (alloc, Gpu.deallocate alloc)
  | .destroyImage alloc => some (alloc, Gpu.destroyImage alloc)
  | _ => none

theorem DeviceCall.asks?_eq_some {call : DeviceCall} {ask : Action (Live Gpu) Allocation}
    (asks : call.asks? = some ask) (s : Live Gpu) :
    (call.run.outcome s).2 = (ask.outcome s).2 ∧
      ask.wp (fun alloc t => Gpu.Ages s t ∧ (Device.gpu s.device).Gives alloc (.gpu t.device))
        (fun _ t => Gpu.Ages s t) s := by
  unfold asks? at asks
  split at asks
  · cases asks
    refine ⟨(outcome_discard _ s).trans ?_, Gpu.ages_allocate _ s⟩
    exact congrArg Prod.snd (outcome_map _ _ s)
  · cases asks
    exact ⟨outcome_discard _ s, Gpu.ages_createImage _ _ _ s⟩
  · cases asks
    exact ⟨outcome_discard _ s, Gpu.ages_importImage _ _ _ s⟩
  · cases asks

theorem DeviceCall.returns?_eq_some {call : DeviceCall} {alloc : Allocation}
    {back : Action (Live Gpu) Unit} (returns : call.returns? = some (alloc, back)) (s : Live Gpu) :
    (call.run.outcome s).2 = (back.outcome s).2 ∧
      back.wp (fun _ t => Gpu.Ages s t ∧
          ((Device.gpu s.device).Sound → (Device.gpu t.device).Spent alloc.id))
        (fun _ t => Gpu.Ages s t) s := by
  unfold returns? at returns
  split at returns
  · cases returns
    refine ⟨(outcome_discard _ s).trans ?_, Gpu.ages_deallocate _ s⟩
    simp only [MemoryCall.run, outcome_bind]
    cases (Gpu.deallocate _).outcome s with
    | mk result t => cases result <;> rfl
  · cases returns
    exact ⟨rfl, Gpu.ages_destroyImage _ s⟩
  · cases returns

namespace WorldCall

open World

def asks? : WorldCall → Option (DeviceKey × Action World Allocation)
  | .allocate key params => some (key, World.allocate key params)
  | .client key _ (.device call) => call.asks?.map fun ask => (key, onGpu key ask)
  | _ => none

def returns? : WorldCall → Option (DeviceKey × Allocation × Action World Unit)
  | .deallocate key alloc => some (key, alloc, World.deallocate key alloc)
  | .client key _ (.device call) =>
    call.returns?.map fun (alloc, back) => (key, alloc, onGpu key back)
  | _ => none

/-- The id of the handle that a call gives, and the device that gives it. -/
def gives? (call : WorldCall) (w : World) : Option (DeviceKey × UInt32) :=
  call.asks?.bind fun (key, ask) => (ask.outcome w).1.toOption.map fun alloc => (key, alloc.id)

/-- The id of the handle that a call gives up, and the device that takes it back. -/
def retires? (call : WorldCall) (w : World) : Option (DeviceKey × UInt32) :=
  call.returns?.bind fun (key, alloc, back) =>
    (back.outcome w).1.toOption.map fun _ => (key, alloc.id)

/-- A client's call to a device is an action of the graphics processor. -/
theorem outcome_onClient {α : Type} {call : DeviceCall} {action : Action (Live Gpu) α}
    (same : ∀ s, (call.run.outcome s).2 = (action.outcome s).2) (key : DeviceKey)
    (lists : List CommandList) (w : World) :
    ((onClient key lists (.device call)).outcome w).2 = ((onGpu key action).outcome w).2 := by
  rw [onClient, outcome_modify]
  simp only [Action.outcome, onGpu, onDevice]
  cases found : w.devices.get? key with
  | none => rfl
  | some d =>
    cases d with
    | host | remote => exact (put_self found).symm
    | gpu g =>
      have asked : ((Call.device call).step { live := ⟨w.platform, g⟩, lists }).2.live =
          (action.outcome ⟨w.platform, g⟩).2 := same _
      simp only [asked, Action.outcome]
      cases action ⟨w.platform, g⟩ <;> rfl

/-- The call as an action that asks a device for a handle. -/
theorem asks?_eq_some {call : WorldCall} {key : DeviceKey} {ask : Action World Allocation}
    (asks : call.asks? = some (key, ask)) (w : World) :
    (call.run.outcome w).2 = (ask.outcome w).2 ∧
      ask.wp (fun alloc w' => w.Ages w' ∧ ∃ d d', w.devices.get? key = some d ∧
        w'.devices.get? key = some d' ∧ d.Gives alloc d') (fun _ w' => w.Ages w') w := by
  unfold asks? at asks
  split at asks
  · cases asks
    exact ⟨outcome_discard _ w,
      ages_giving _ (Host.ages_allocate _) (Gpu.ages_allocate _) (Remote.ages_allocate _) w⟩
  · obtain ⟨action, found, same⟩ := Option.map_eq_some_iff.1 asks
    cases same
    have spec := DeviceCall.asks?_eq_some found
    exact ⟨outcome_onClient (fun s => (spec s).1) _ _ w,
      ages_giving _ (fun h => (wp_throw _).2 (Evolution.refl h)) (fun s => (spec s).2)
        (fun s => (wp_throw _).2 (Evolution.refl s)) w⟩
  · cases asks

/-- The call as an action that gives a handle back to a device. -/
theorem returns?_eq_some {call : WorldCall} {key : DeviceKey} {alloc : Allocation}
    {back : Action World Unit} (returns : call.returns? = some (key, alloc, back)) (w : World) :
    (call.run.outcome w).2 = (back.outcome w).2 ∧
      back.wp (fun _ w' => w.Ages w' ∧ (w.Sound → w'.Spent key alloc.id))
        (fun _ w' => w.Ages w') w := by
  unfold returns? at returns
  split at returns
  · cases returns
    exact ⟨rfl, ages_retiring _ _ (Host.ages_deallocate _) (Gpu.ages_deallocate _)
      (Remote.ages_deallocate _) w⟩
  · obtain ⟨action, found, same⟩ := Option.map_eq_some_iff.1 returns
    cases same
    have spec := DeviceCall.returns?_eq_some found
    exact ⟨outcome_onClient (fun s => (spec s).1) _ _ w,
      ages_retiring _ _ (fun h => (wp_throw _).2 (Evolution.refl h)) (fun s => (spec s).2)
        (.throw _) w⟩
  · cases returns

/-- A device that gives a handle gives the next id. -/
theorem gives?_eq_some {call : WorldCall} {w : World} {key : DeviceKey} {id : UInt32}
    (gives : call.gives? w = some (key, id)) :
    ∃ d d', w.devices.get? key = some d ∧
      (call.run.outcome w).2.devices.get? key = some d' ∧ id = d.nextAlloc ∧
      d.nextAlloc < d'.nextAlloc := by
  obtain ⟨⟨key', ask⟩, asks, answer⟩ := Option.bind_eq_some_iff.1 gives
  obtain ⟨alloc', got, same⟩ := Option.map_eq_some_iff.1 answer
  cases same
  obtain ⟨same, spec⟩ := asks?_eq_some asks w
  obtain ⟨-, d, d', found, found', given⟩ := spec.ended (ended_of_toOption got)
  rw [same]
  exact ⟨d, d', found, found', congrArg Allocation.id given.alloc_eq, given.less⟩

theorem retires?_eq_some {call : WorldCall} {w : World} {key : DeviceKey} {id : UInt32}
    (sound : w.Sound) (retires : call.retires? w = some (key, id)) :
    (call.run.outcome w).2.Spent key id := by
  obtain ⟨⟨key', alloc', back⟩, returns, answer⟩ := Option.bind_eq_some_iff.1 retires
  obtain ⟨_, got, same⟩ := Option.map_eq_some_iff.1 answer
  cases same
  obtain ⟨same, spec⟩ := returns?_eq_some returns w
  rw [same]
  exact (spec.ended (ended_of_toOption got)).2 sound

end WorldCall

namespace World

/-- What is gathered of the calls of a run, of each in the world that it is asked of. -/
def gathered {β : Type} (note : WorldCall → World → Option β) : World → List WorldCall → List β
  | _, [] => []
  | w, call :: calls => (note call w).toList ++ gathered note (call.run.outcome w).2 calls

/-- The ids that devices give in a run, in order. -/
def given : World → List WorldCall → List (DeviceKey × UInt32) := gathered WorldCall.gives?

/-- The ids that devices take back in a run, in order. -/
def retired : World → List WorldCall → List (DeviceKey × UInt32) := gathered WorldCall.retires?

variable {key : DeviceKey} {id : UInt32} {w : World}

theorem ages_after (w : World) (calls : List WorldCall) : w.Ages (w.after calls) := by
  induction calls generalizing w with
  | nil => exact Evolution.refl w
  | cons call calls ih => exact Evolution.trans (call.ages.outcome w) (ih _)

theorem sound_empty : ({} : World).Sound := ⟨nofun, nofun⟩

/-- A device gives ids above all that it gave. -/
theorem Past.less {later : UInt32} (past : w.Past key id) {calls : List WorldCall}
    (gives : (key, later) ∈ w.given calls) : id < later := by
  induction calls generalizing w with
  | nil => cases gives
  | cons call calls ih =>
    rcases List.mem_append.1 gives with now | after
    · obtain ⟨d, d', found, -, rfl, -⟩ := WorldCall.gives?_eq_some (Option.mem_toList.1 now)
      exact past.given found
    · exact ih ((call.ages.outcome w).past past) after

/-- Of two ids that a device gives, the later one is the greater. -/
theorem given_ascends (sound : w.Sound) (calls : List WorldCall) :
    (w.given calls).Pairwise fun earlier later => earlier.1 = later.1 → earlier.2 < later.2 := by
  induction calls generalizing w with
  | nil => exact .nil
  | cons call calls ih =>
    have step := call.ages.outcome w
    refine List.pairwise_append.2 ⟨?_, ih (step.sound sound), ?_⟩
    · cases call.gives? w with
      | none => exact .nil
      | some g => exact List.pairwise_singleton _ g
    · rintro ⟨key, id⟩ now ⟨_, id'⟩ later rfl
      obtain ⟨d, d', found, found', rfl, less⟩ :=
        WorldCall.gives?_eq_some (Option.mem_toList.1 now)
      have past : (call.run.outcome w).2.Past key d.nextAlloc := by
        refine ⟨Nat.lt_of_lt_of_le (sound.keyed found) step.nextKey, fun here => ?_⟩
        cases found'.symm.trans here
        exact less
      exact past.less later

/-- Nothing is ever again behind an id that a device took back. -/
theorem spent_of_retired (sound : w.Sound) {calls : List WorldCall}
    (gone : (key, id) ∈ w.retired calls) : (w.after calls).Spent key id := by
  induction calls generalizing w with
  | nil => cases gone
  | cons call calls ih =>
    have step := call.ages.outcome w
    rcases List.mem_append.1 gone with now | later
    · have spent := WorldCall.retires?_eq_some sound (Option.mem_toList.1 now)
      exact (ages_after _ calls).spent spent
    · exact ih (step.sound sound) later

end World

end DeviceLayer
