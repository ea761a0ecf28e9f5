import DeviceLayer.Proofs.LaunchCalls

/-!
# The script of a launch

Whatever the devices do, the calls of a launch follow a script. The script is told by how each
foreign range was made local and by which aliases had to be freed, which is what the devices
answered. The first call that fails, or the first device that the registry does not know, ends the
launch with its fault.

* `LaunchStep`, `Played` — a step of a script, and what a run of a script writes down.
* `LaunchInterface.Plays` — actions that run a script.
* `Route`, `launchScript` — a foreign range with the way it was made local; the script of a launch.
* `LaunchInterface.launch_protocol` — every launch runs its script, to the end or to the first
  failure.
-/

namespace DeviceLayer

open DeviceLayer.Action

/-! ## Scripts -/

/-- A call with its answer, and the device that is looked up before it. -/
structure LaunchStep where
  looksUp : Option DeviceId := none
  call : LaunchCall
  answer : LaunchAnswer := .done

def LaunchStep.answered (step : LaunchStep) : LaunchCall × Except Fault LaunchAnswer :=
  (step.call, .ok step.answer)

/-- What a registry and a script make of a run: it goes on as long as the registry knows the devices
that are looked up and the calls are answered. -/
inductive Played {σ δ : Type} (registry : DeviceId → Except Fault δ) :
    List LaunchStep → List (LaunchEntry σ) → Except Fault Unit → Prop where
  | done : Played registry [] [] (.ok ())
  | unknown {step : LaunchStep} {rest : List LaunchStep} {id : DeviceId} {e : Fault}
    (looksUp : step.looksUp = some id) (missing : registry id = .error e) :
    Played registry (step :: rest) [] (.error e)
  | failed {step : LaunchStep} {rest : List LaunchStep} (before : σ) (e : Fault)
    (known : ∀ id, step.looksUp = some id → ∃ source, registry id = .ok source) :
    Played registry (step :: rest) [⟨step.call, before, .error e⟩] (.error e)
  | answered {step : LaunchStep} {rest : List LaunchStep} (before : σ)
    {log : List (LaunchEntry σ)} {result : Except Fault Unit}
    (known : ∀ id, step.looksUp = some id → ∃ source, registry id = .ok source)
    (later : Played registry rest log result) :
    Played registry (step :: rest) (⟨step.call, before, .ok step.answer⟩ :: log) result

/-- The steps before one were answered, and that one failed: its call did, which is the last, or the
registry does not know its device. -/
def Stopped {σ δ : Type} (registry : DeviceId → Except Fault δ) (steps : List LaunchStep)
    (log : List (LaunchEntry σ)) (e : Fault) : Prop :=
  ∃ before step after made, steps = before ++ step :: after ∧
    made.map LaunchEntry.asked = before.map LaunchStep.answered ∧
    ((∃ s, log = made ++ [⟨step.call, s, .error e⟩]) ∨
      log = made ∧ ∃ id, step.looksUp = some id ∧ registry id = .error e)

namespace Played

variable {σ δ : Type} {registry : DeviceId → Except Fault δ} {steps more : List LaunchStep}
  {log log' : List (LaunchEntry σ)} {result : Except Fault Unit}

theorem append (first : Played registry steps log (.ok ()))
    (second : Played registry more log' result) :
    Played registry (steps ++ more) (log ++ log') result := by
  generalize ended : (Except.ok () : Except Fault Unit) = r at first
  induction first with
  | done => exact second
  | unknown | failed => cases ended
  | answered before known _ ih => exact .answered before known (ih ended)

theorem cut {e : Fault} (first : Played registry steps log (.error e)) (more : List LaunchStep) :
    Played registry (steps ++ more) log (.error e) := by
  generalize ended : (Except.error e : Except Fault Unit) = r at first ⊢
  induction first with
  | done => cases ended
  | unknown looksUp missing => exact .unknown looksUp missing
  | failed before e known => exact .failed before e known
  | answered before known _ ih => exact .answered before known (ih ended)

theorem calls_prefix (played : Played registry steps log result) :
    log.map (·.call) <+: steps.map (·.call) := by
  induction played with
  | done => exact List.prefix_refl _
  | unknown => exact List.nil_prefix
  | failed => exact ⟨_, rfl⟩
  | answered before known _ ih => exact (List.prefix_cons_inj _).2 ih

/-- A run ends well exactly if every call of the script was made and answered. -/
theorem ok_iff (played : Played registry steps log result) :
    result = .ok () ↔ log.map (·.asked) = steps.map (·.answered) := by
  induction played with
  | done => simp
  | unknown => simp
  | failed => simp [LaunchEntry.asked, LaunchStep.answered]
  | answered before known _ ih => simp [ih, LaunchEntry.asked, LaunchStep.answered]

/-- A run that does not end well ends at the first step that failed, with its fault. -/
theorem stopped {e : Fault} (played : Played registry steps log result)
    (failed : result = .error e) : Stopped registry steps log e := by
  induction played with
  | done => cases failed
  | unknown looksUp missing =>
    cases failed
    exact ⟨[], _, _, [], rfl, rfl, .inr ⟨rfl, _, looksUp, missing⟩⟩
  | failed s e known =>
    cases failed
    exact ⟨[], _, _, [], rfl, rfl, .inl ⟨s, rfl⟩⟩
  | @answered step _ s _ _ known _ ih =>
    obtain ⟨before, last, after, made, rfl, answers, fails⟩ := ih failed
    refine ⟨step :: before, last, after, ⟨step.call, s, .ok step.answer⟩ :: made, rfl, ?_, ?_⟩
    · rw [List.map_cons, List.map_cons, answers]
      rfl
    · obtain ⟨t, rfl⟩ | ⟨rfl, unknown⟩ := fails
      · exact .inl ⟨t, rfl⟩
      · exact .inr ⟨rfl, unknown⟩

end Played

/-! ## Actions that play scripts -/

namespace LaunchInterface

variable {σ δ α β : Type} {registry : DeviceId → Except Fault δ}

/-- The action plays a script that goes with what it answers. If it fails, the script goes with
something that it might have answered. -/
def Plays (registry : DeviceId → Except Fault δ) (allowed : α → List LaunchStep → Prop)
    (a : Action (LaunchRun σ) α) : Prop :=
  ∀ r, a.wp
    (fun x t => ∃ steps made, allowed x steps ∧ Played registry steps made (.ok ()) ∧
      t.log = r.log ++ made)
    (fun e t => ∃ x steps made, allowed x steps ∧ Played registry steps made (.error e) ∧
      t.log = r.log ++ made) r

namespace Plays

variable {P P' : α → List LaunchStep → Prop} {Q : β → List LaunchStep → Prop}

theorem allows {a : Action (LaunchRun σ) α} (plays : Plays registry P a) (r : LaunchRun σ) :
    ∃ x steps, P x steps := by
  refine wp.outcome (P := fun _ => ∃ x steps, P x steps) ((plays r).mono ?_ ?_)
  · rintro x t ⟨steps, -, allowed, -⟩
    exact ⟨x, steps, allowed⟩
  · rintro e t ⟨x, steps, -, allowed, -⟩
    exact ⟨x, steps, allowed⟩

/-- A run that has written nothing down yet has written down, at its end, a run of the script. -/
theorem outcome {P : Unit → List LaunchStep → Prop} {a : Action (LaunchRun σ) Unit}
    (plays : Plays registry P a) (s : σ) :
    ∃ steps, P () steps ∧
      Played registry steps (a.outcome { state := s }).2.log (a.outcome { state := s }).1 := by
  refine wp.outcome (P := fun o => ∃ steps, P () steps ∧ Played registry steps o.2.log o.1)
    ((plays { state := s }).mono ?_ ?_)
  · rintro ⟨⟩ t ⟨steps, made, allowed, played, log⟩
    exact ⟨steps, allowed, log ▸ played⟩
  · rintro e t ⟨⟨⟩, steps, made, allowed, played, log⟩
    exact ⟨steps, allowed, log ▸ played⟩

theorem mono {a : Action (LaunchRun σ) α} (plays : Plays registry P a)
    (weaker : ∀ x steps, P x steps → P' x steps) : Plays registry P' a := by
  intro r
  refine (plays r).mono ?_ ?_
  · rintro x t ⟨steps, made, allowed, played⟩
    exact ⟨steps, made, weaker x steps allowed, played⟩
  · rintro e t ⟨x, steps, made, allowed, played⟩
    exact ⟨x, steps, made, weaker x steps allowed, played⟩

theorem pure {x : α} (allowed : P x []) :
    Plays registry P (Pure.pure x : Action (LaunchRun σ) α) :=
  fun _ => ⟨[], [], allowed, .done, (List.append_nil _).symm⟩

theorem bind {a : Action (LaunchRun σ) β} {k : β → Action (LaunchRun σ) α}
    (first : Plays registry Q a)
    (rest : ∀ x xs, Q x xs → Plays registry (fun y ys => P y (xs ++ ys)) (k x)) :
    Plays registry P (a >>= k) := by
  intro r
  rw [wp_bind]
  refine (first r).mono ?_ ?_
  · rintro x t ⟨xs, made, allowed, played, log⟩
    refine (rest x xs allowed t).mono ?_ ?_
    · rintro y u ⟨ys, made', allowed', played', log'⟩
      refine ⟨xs ++ ys, made ++ made', allowed', played.append played', ?_⟩
      rw [log', log, List.append_assoc]
    · rintro e u ⟨y, ys, made', allowed', played', log'⟩
      refine ⟨y, xs ++ ys, made ++ made', allowed', played.append played', ?_⟩
      rw [log', log, List.append_assoc]
  · -- What would have come does not matter any more, but something would.
    rintro e t ⟨x, xs, made, allowed, played, log⟩
    obtain ⟨y, ys, allowed'⟩ := (rest x xs allowed).allows t
    exact ⟨y, xs ++ ys, made, allowed', played.cut ys, log⟩

end Plays

theorem Plays.call [Inhabited α] {P : α → List LaunchStep → Prop} {call : LaunchCall}
    {answer : α → LaunchAnswer} {a : Action σ α}
    (allowed : ∀ x, P x [{ call, answer := answer x }]) :
    Plays registry P (noted call answer a) := by
  intro r
  rw [wp_noted]
  unfold wp
  cases a r.state with
  | ok x t => exact ⟨_, _, allowed x, .answered r.state nofun .done, rfl⟩
  | error e t => exact ⟨default, _, _, allowed default, .failed r.state e nofun, rfl⟩

/-- A call and what is made of its answer. -/
theorem Plays.callThen [Inhabited β] {P : α → List LaunchStep → Prop} {call : LaunchCall}
    {answer : β → LaunchAnswer} {a : Action σ β} {k : β → Action (LaunchRun σ) α}
    (rest : ∀ x, Plays registry
      (fun y steps => P y ({ call, answer := answer x } :: steps)) (k x)) :
    Plays registry P (noted call answer a >>= k) := by
  refine Plays.bind (Q := fun x steps => steps = [{ call, answer := answer x }])
    (Plays.call fun _ => rfl) ?_
  rintro x _ rfl
  exact rest x

/-- The devices as a registry knows them. -/
def withRegistry (d : LaunchInterface (Action σ) δ) (registry : DeviceId → Except Fault δ) :
    LaunchInterface (Action σ) δ :=
  { d with find := fun id => Action.check (registry id) }

end LaunchInterface

/-- The steps, with a device looked up before the first. -/
def lookingUp (id : DeviceId) : List LaunchStep → List LaunchStep
  | [] => []
  | step :: rest => { step with looksUp := some id } :: rest

theorem Played.lookingUp {σ δ : Type} {registry : DeviceId → Except Fault δ} {id : DeviceId}
    {source : δ} (found : registry id = .ok source) {step : LaunchStep} {rest : List LaunchStep}
    (plain : step.looksUp = none) {log : List (LaunchEntry σ)} {result : Except Fault Unit}
    (played : Played registry (step :: rest) log result) :
    Played registry (lookingUp id (step :: rest)) log result := by
  have known : ∀ id', some id = some id' → ∃ source, registry id' = .ok source := by
    rintro _ ⟨⟩
    exact ⟨source, found⟩
  change Played registry ({ step with looksUp := some id } :: rest) log result
  cases played with
  | unknown looksUp missing =>
    rw [plain] at looksUp
    cases looksUp
  | failed before e _ => exact .failed before e known
  | answered before _ later => exact .answered before known later

namespace LaunchInterface

variable {σ δ α β : Type} {registry : DeviceId → Except Fault δ}

theorem wp_find (d : LaunchInterface (Action σ) δ) {id : DeviceId}
    {Q : DeviceId × δ → LaunchRun σ → Prop} {E : Fault → LaunchRun σ → Prop} {r : LaunchRun σ} :
    ((d.withRegistry registry).traced.find id).wp Q E r ↔
      (∀ source, registry id = .ok source → Q (id, source) r) ∧
        (∀ e, registry id = .error e → E e r) := by
  simp [wp_traced_find, withRegistry]

/-- A device is looked up before what is asked of it. -/
theorem Plays.find (d : LaunchInterface (Action σ) δ) {P : α → List LaunchStep → Prop}
    {k : DeviceId × δ → Action (LaunchRun σ) α} {id : DeviceId} (allows : ∃ x steps, P x steps)
    (first : ∀ x steps, P x steps → ∃ step rest, steps = step :: rest ∧ step.looksUp = none)
    (rest : ∀ source, Plays registry P (k (id, source))) :
    Plays registry (fun x steps => ∃ plain, P x plain ∧ steps = lookingUp id plain)
      ((d.withRegistry registry).traced.find id >>= k) := by
  intro r
  rw [wp_bind, wp_find]
  refine ⟨fun source found => (rest source r).mono ?_ ?_, fun e missing => ?_⟩
  · rintro x t ⟨steps, made, allowed, played, log⟩
    obtain ⟨step, more, rfl, plain⟩ := first x steps allowed
    exact ⟨_, made, ⟨_, allowed, rfl⟩, played.lookingUp found plain, log⟩
  · rintro e t ⟨x, steps, made, allowed, played, log⟩
    obtain ⟨step, more, rfl, plain⟩ := first x steps allowed
    exact ⟨x, _, made, ⟨_, allowed, rfl⟩, played.lookingUp found plain, log⟩
  · obtain ⟨x, steps, allowed⟩ := allows
    obtain ⟨step, more, rfl, -⟩ := first x steps allowed
    exact ⟨x, _, [], ⟨_, allowed, rfl⟩, .unknown rfl missing, (List.append_nil _).symm⟩

end LaunchInterface

/-! ## The script of a launch -/

/-- How a foreign range was made local. -/
inductive Access where
  /-- The launching device sees it through a pointer. -/
  | shared (pointer : Pointer)
  /-- It was copied into scratch memory. -/
  | copied (scratch : Allocation)

/-- A foreign range and the way it was made local. -/
structure Route where
  node : Int
  source : Range
  access : Access

namespace Route

/-- Where the launching device sees the range, in its full length. -/
def near (r : Route) : Range :=
  match r.access with
  | .shared pointer => ⟨pointer, r.source.length⟩
  | .copied scratch => scratch.range r.source.length

/-- An alias is asked for; if it is refused, the range is copied into scratch memory. -/
def localize (r : Route) : List LaunchStep :=
  match r.access with
  | .shared pointer => [{ call := .localAlias r.source, answer := .aliased (some pointer) }]
  | .copied scratch =>
    [{ call := .localAlias r.source, answer := .aliased none },
      { call := .allocate (.deviceLocal r.source.length), answer := .memory scratch },
      { call := .copyIn r.near.start r.source r.source.device }]

def await (r : Route) : List LaunchStep := [{ call := .syncLocal r.near r.source.device }]

/-- A copy is written back and freed; an alias is freed if it is owned. -/
def giveBack (r : Route) (owned : Bool) : List LaunchStep :=
  match r.access with
  | .copied scratch =>
    lookingUp r.source.device
      [{ call := .copyOut r.source.device r.source.start r.near }, { call := .deallocate scratch }]
  | .shared pointer =>
    { call := .isAlias pointer, answer := .verdict owned } ::
      if owned then [{ call := .deallocate pointer.allocation }] else []

def publish (r : Route) : List LaunchStep := [{ call := .syncSource r.source.device r.source }]

end Route

/-- The script of a launch over the ranges `near`, by the routes of the foreign ranges and whether
their aliases are owned. -/
def launchScript (stream kernel : UInt32) (near : Mapping) (routes : List Route)
    (owned : List Bool) : List LaunchStep :=
  routes.flatMap (fun r => lookingUp r.source.device r.localize) ++
    (routes.flatMap (fun r => lookingUp r.source.device r.await) ++
      ({ call := .run stream kernel near } ::
        ((routes.zip owned).flatMap (fun r => r.1.giveBack r.2) ++
          routes.flatMap fun r => lookingUp r.source.device r.publish)))

/-- The launched mapping has the nodes of the one that was asked for: ranges of the launching device
as they are, and for every foreign range, in order, where its route leads. -/
inductive Localized (here : DeviceId) :
    List (Int × Range) → List Route → List (Int × Range) → Prop where
  | nil : Localized here [] [] []
  | kept {node : Int} {range : Range} {rest near : List (Int × Range)} {routes : List Route}
    (isHere : range.device = here) (later : Localized here rest routes near) :
    Localized here ((node, range) :: rest) routes ((node, range) :: near)
  | moved (route : Route) {rest near : List (Int × Range)} {routes : List Route}
    (foreign : route.source.device ≠ here) (later : Localized here rest routes near) :
    Localized here ((route.node, route.source) :: rest) (route :: routes)
      ((route.node, route.near) :: near)

theorem Localized.nodes {here : DeviceId} {entries near : List (Int × Range)}
    {routes : List Route} (follows : Localized here entries routes near) :
    near.map Prod.fst = entries.map Prod.fst := by
  induction follows with
  | nil => rfl
  | kept isHere later ih => rw [List.map_cons, List.map_cons, ih]
  | moved route foreign later ih => rw [List.map_cons, List.map_cons, ih]

theorem Localized.sorted {here : DeviceId} {entries near : List (Int × Range)}
    {routes : List Route} (follows : Localized here entries routes near)
    (sorted : entries.Pairwise fun a b => Ranked.rank a.1 < Ranked.rank b.1) :
    near.Pairwise fun a b => Ranked.rank a.1 < Ranked.rank b.1 := by
  have nodes : (entries.map Prod.fst).Pairwise fun a b => Ranked.rank a < Ranked.rank b :=
    List.pairwise_map.2 sorted
  rw [← follows.nodes] at nodes
  exact List.pairwise_map.1 nodes

/-- A launch entry for the range. -/
def Route.entry (r : Route) : ForeignNode where
  node := r.node
  source := r.source
  near := r.near
  scratch :=
    match r.access with
    | .shared _ => none
    | .copied scratch => some scratch

/-! ## Every launch plays its script -/

instance : Inhabited Allocation := ⟨⟨.unassigned, 0⟩⟩

instance : Inhabited Pointer := ⟨⟨.unassigned, 0, 0⟩⟩

namespace LaunchInterface

variable {σ δ β : Type} {registry : DeviceId → Except Fault δ} (d : LaunchInterface (Action σ) δ)

theorem plays_localize (node : Int) (range : Range) :
    Plays registry
      (fun entry steps => ∃ r : Route, r.node = node ∧ r.source = range ∧ entry = r.entry ∧
        steps = lookingUp r.source.device r.localize)
      ((d.withRegistry registry).traced.localize node range) := by
  refine Plays.mono (P := fun entry steps => ∃ plain, (∃ r : Route, r.node = node ∧
    r.source = range ∧ entry = r.entry ∧ plain = r.localize) ∧ steps = lookingUp range.device plain)
    (Plays.find d ?_ ?_ fun source => ?_) ?_
  · exact ⟨_, _, ⟨node, range, .shared default⟩, rfl, rfl, rfl, rfl⟩
  · rintro _ _ ⟨⟨_, _, access⟩, -, -, -, rfl⟩
    cases access <;> exact ⟨_, _, rfl, rfl⟩
  · refine Plays.callThen fun pointer => ?_
    cases pointer with
    | some pointer => exact .pure ⟨⟨node, range, .shared pointer⟩, rfl, rfl, rfl, rfl⟩
    | none =>
      refine Plays.callThen fun scratch => Plays.callThen fun _ => .pure ?_
      exact ⟨⟨node, range, .copied scratch⟩, rfl, rfl, rfl, rfl⟩
  · rintro entry _ ⟨_, ⟨r, rfl, rfl, rfl, rfl⟩, rfl⟩
    exact ⟨r, rfl, rfl, rfl, rfl⟩

theorem plays_localizeEach (here : DeviceId) (entries : List (Int × Range)) :
    Plays registry
      (fun localized steps => ∃ routes, Localized here entries routes localized.1 ∧
        localized.2 = routes.map Route.entry ∧
        steps = routes.flatMap fun r => lookingUp r.source.device r.localize)
      ((d.withRegistry registry).traced.localizeEach here entries) := by
  induction entries with
  | nil => exact .pure ⟨[], .nil, rfl, rfl⟩
  | cons entry rest ih =>
    obtain ⟨node, range⟩ := entry
    rw [localizeEach]
    by_cases isHere : range.device = here
    · rw [if_pos isHere]
      refine Plays.bind ih ?_
      rintro ⟨near, _⟩ _ ⟨routes, follows, rfl, rfl⟩
      exact .pure ⟨routes, .kept isHere follows, rfl, List.append_nil _⟩
    · rw [if_neg isHere]
      refine Plays.bind (plays_localize d node range) ?_
      rintro _ _ ⟨r, rfl, rfl, rfl, rfl⟩
      refine Plays.bind ih ?_
      rintro ⟨near, _⟩ _ ⟨routes, follows, rfl, rfl⟩
      refine .pure ⟨r :: routes, .moved r isHere follows, rfl, ?_⟩
      rw [List.append_nil, List.flatMap_cons]

theorem plays_localizeAll (here : DeviceId) (mapping : Mapping) :
    Plays registry
      (fun localized steps => ∃ routes, Localized here mapping.toList routes localized.1.toList ∧
        localized.2 = routes.map Route.entry ∧
        steps = routes.flatMap fun r => lookingUp r.source.device r.localize)
      ((d.withRegistry registry).traced.localizeAll here mapping) := by
  rw [localizeAll_eq]
  refine Plays.bind (plays_localizeEach d here mapping.toList) ?_
  rintro ⟨near, foreign⟩ _ ⟨routes, follows, rfl, rfl⟩
  refine .pure ⟨routes, ?_, rfl, List.append_nil _⟩
  rw [SortedMap.toList_ofList (follows.sorted mapping.sorted)]
  exact follows

theorem Plays.forM_entries (routes : List Route) {script : Route → List LaunchStep}
    {body : ForeignNode → Action (LaunchRun σ) PUnit}
    (each : ∀ r : Route, Plays registry (fun _ steps => steps = script r) (body r.entry)) :
    Plays registry (fun _ steps => steps = routes.flatMap script)
      ((routes.map Route.entry).forM body) := by
  induction routes with
  | nil => exact .pure rfl
  | cons r routes ih =>
    refine Plays.bind (each r) ?_
    rintro _ _ rfl
    refine ih.mono ?_
    rintro _ _ rfl
    rfl

theorem Plays.findCall {id : DeviceId} {call : LaunchCall}
    {k : DeviceId × δ → Action (LaunchRun σ) Unit}
    (asks : ∀ source, ∃ a, k (id, source) = noted call (fun _ => .done) a) :
    Plays registry (fun _ steps => steps = lookingUp id [{ call }])
      ((d.withRegistry registry).traced.find id >>= k) := by
  refine (Plays.find d (P := fun _ steps => steps = [{ call }]) ⟨⟨⟩, _, rfl⟩ ?_
    fun source => ?_).mono ?_
  · rintro _ _ rfl
    exact ⟨_, _, rfl, rfl⟩
  · obtain ⟨a, asked⟩ := asks source
    rw [asked]
    exact .call fun _ => rfl
  · rintro _ _ ⟨_, rfl, rfl⟩
    rfl

theorem plays_await (r : Route) :
    Plays registry (fun _ steps => steps = lookingUp r.source.device r.await)
      (do
        let source ← (d.withRegistry registry).traced.find r.entry.source.device
        (d.withRegistry registry).traced.syncLocal r.entry.near source) :=
  .findCall d fun source => ⟨d.syncLocal r.near source, rfl⟩

theorem plays_publish (r : Route) :
    Plays registry (fun _ steps => steps = lookingUp r.source.device r.publish)
      (do
        let source ← (d.withRegistry registry).traced.find r.entry.source.device
        (d.withRegistry registry).traced.syncSource source r.entry.source) :=
  .findCall d fun source => ⟨d.syncSource source r.source, rfl⟩

theorem plays_giveBack (r : Route) :
    Plays registry (fun _ steps => ∃ owned, steps = r.giveBack owned)
      ((d.withRegistry registry).traced.giveBack r.entry) := by
  obtain ⟨node, source, access⟩ := r
  cases access with
  | shared pointer =>
    refine Plays.callThen fun owned => ?_
    cases owned with
    | true => exact .call fun _ => ⟨true, rfl⟩
    | false => exact .pure ⟨false, rfl⟩
  | copied scratch =>
    refine (Plays.find d (P := fun _ steps => steps =
      [{ call := .copyOut source.device source.start (scratch.range source.length) },
        { call := .deallocate scratch }]) ⟨⟨⟩, _, rfl⟩ ?_ fun source => ?_).mono ?_
    · rintro _ _ rfl
      exact ⟨_, _, rfl, rfl⟩
    · exact Plays.callThen fun _ => Plays.call fun _ => rfl
    · rintro _ _ ⟨_, rfl, rfl⟩
      exact ⟨false, rfl⟩

theorem plays_giveBacks (routes : List Route) :
    Plays registry
      (fun _ steps => ∃ owned : List Bool, owned.length = routes.length ∧
        steps = (routes.zip owned).flatMap fun r => r.1.giveBack r.2)
      ((routes.map Route.entry).forM (d.withRegistry registry).traced.giveBack) := by
  induction routes with
  | nil => exact .pure ⟨[], rfl, rfl⟩
  | cons r routes ih =>
    refine Plays.bind (plays_giveBack d r) ?_
    rintro _ _ ⟨owned, rfl⟩
    refine ih.mono ?_
    rintro _ _ ⟨more, lengths, rfl⟩
    exact ⟨owned :: more, congrArg (· + 1) lengths, rfl⟩

theorem plays_launch (here : DeviceId) (stream kernel : UInt32) (mapping : Mapping) :
    Plays registry
      (fun _ steps => ∃ near routes owned, Localized here mapping.toList routes near.toList ∧
        owned.length = routes.length ∧ steps = launchScript stream kernel near routes owned)
      ((d.withRegistry registry).traced.launch here stream kernel mapping) := by
  refine Plays.bind (plays_localizeAll d here mapping) ?_
  rintro ⟨near, _⟩ _ ⟨routes, follows, rfl, rfl⟩
  refine Plays.bind (Plays.forM_entries routes (plays_await d)) ?_
  rintro _ _ rfl
  refine Plays.callThen fun _ => Plays.bind (plays_giveBacks d routes) ?_
  rintro _ _ ⟨owned, lengths, rfl⟩
  refine (Plays.forM_entries routes (plays_publish d)).mono ?_
  rintro _ _ rfl
  exact ⟨near, routes, owned, follows, lengths, rfl⟩

/-- Whatever the devices answer, the calls of a launch are the first of its script. They are the
whole script, each answered, exactly if the launch ends well; otherwise it ends with the fault of
the first step that failed. -/
theorem launch_protocol (registry : DeviceId → Except Fault δ) (here : DeviceId)
    (stream kernel : UInt32) (mapping : Mapping) (s : σ) :
    ∃ result run,
      ((d.withRegistry registry).traced.launch here stream kernel mapping).outcome { state := s } =
        (result, run) ∧
      ((d.withRegistry registry).launch here stream kernel mapping).outcome s =
        (result, run.state) ∧
      ∃ near routes owned, Localized here mapping.toList routes near.toList ∧
        owned.length = routes.length ∧
        run.log.map (·.call) <+:
          (launchScript stream kernel near routes owned).map (·.call) ∧
        (result = .ok () ↔ run.log.map (·.asked) =
          (launchScript stream kernel near routes owned).map (·.answered)) ∧
        ∀ e, result = .error e →
          Stopped registry (launchScript stream kernel near routes owned) run.log e := by
  obtain ⟨_, ⟨near, routes, owned, follows, lengths, rfl⟩, played⟩ :=
    (plays_launch d here stream kernel mapping).outcome s
  refine ⟨_, _, rfl, (traced_launch _ here stream kernel mapping).outcome { state := s },
    near, routes, owned, follows, lengths, played.calls_prefix, played.ok_iff, ?_⟩
  exact fun e failed => played.stopped failed

end LaunchInterface

end DeviceLayer
