import DeviceLayer.Launch
import DeviceLayer.Proofs.Actions

/-!
# The calls of a launch

A launch asks devices for one thing after the other. To speak about what it asks and when, its calls
are written down as they are made.

* `LaunchCall`, `LaunchEntry` — a call, and how it went.
* `LaunchInterface.traced` — an interface that writes its calls down.
* `LaunchInterface.traced_launch` — writing the calls down changes nothing else.
-/

namespace DeviceLayer

open DeviceLayer.Action

/-! ## Writing calls down -/

/-- What a launch asks of devices: of the launching one or, where one is named by `source`, of the
source device itself or with it. -/
inductive LaunchCall where
  | localAlias (range : Range)
  | allocate (params : AllocParams)
  | copyIn (dst : Pointer) (src : Range) (source : DeviceId)
  | syncLocal (range : Range) (source : DeviceId)
  | run (stream kernel : UInt32) (mapping : Mapping)
  /-- The source copies from the launching device. -/
  | copyOut (source : DeviceId) (dst : Pointer) (src : Range)
  | isAlias (pointer : Pointer)
  | deallocate (alloc : Allocation)
  /-- The source synchronises with the launching device. -/
  | syncSource (source : DeviceId) (range : Range)

inductive LaunchAnswer where
  | done
  | aliased (pointer : Option Pointer)
  | memory (alloc : Allocation)
  | verdict (holds : Bool)

/-- A call that was made, the state it was made in and how it ended. -/
structure LaunchEntry (σ : Type) where
  call : LaunchCall
  before : σ
  answer : Except Fault LaunchAnswer

def LaunchEntry.asked {σ : Type} (entry : LaunchEntry σ) : LaunchCall × Except Fault LaunchAnswer :=
  (entry.call, entry.answer)

/-- A state and the calls that led to it. -/
structure LaunchRun (σ : Type) where
  state : σ
  log : List (LaunchEntry σ) := []

namespace LaunchInterface

variable {σ δ α β : Type}

/-- Writes a call down. -/
def noted (call : LaunchCall) (answer : α → LaunchAnswer) (action : Action σ α) :
    Action (LaunchRun σ) α := fun r =>
  match action r.state with
  | .ok x t => .ok x ⟨t, r.log ++ [⟨call, r.state, .ok (answer x)⟩]⟩
  | .error e t => .error e ⟨t, r.log ++ [⟨call, r.state, .error e⟩]⟩

/-- Asks without writing anything down. -/
def unnoted (action : Action σ α) : Action (LaunchRun σ) α :=
  action.within (·.state) fun s r => { r with state := s }

/-- The same devices, with every call to them written down. Looking a device up is not a call. -/
def traced (d : LaunchInterface (Action σ) δ) :
    LaunchInterface (Action (LaunchRun σ)) (DeviceId × δ) where
  find id := (fun source => (id, source)) <$> unnoted (d.find id)
  localAlias range := noted (.localAlias range) .aliased (d.localAlias range)
  allocate params := noted (.allocate params) .memory (d.allocate params)
  copyIn dst src source := noted (.copyIn dst src source.1) (fun _ => .done)
    (d.copyIn dst src source.2)
  syncLocal range source := noted (.syncLocal range source.1) (fun _ => .done)
    (d.syncLocal range source.2)
  run stream kernel mapping := noted (.run stream kernel mapping) (fun _ => .done)
    (d.run stream kernel mapping)
  copyOut source dst src := noted (.copyOut source.1 dst src) (fun _ => .done)
    (d.copyOut source.2 dst src)
  isAlias pointer := noted (.isAlias pointer) .verdict (d.isAlias pointer)
  deallocate alloc := noted (.deallocate alloc) (fun _ => .done) (d.deallocate alloc)
  syncSource source range := noted (.syncSource source.1 range) (fun _ => .done)
    (d.syncSource source.2 range)

theorem wp_noted {call : LaunchCall} {answer : α → LaunchAnswer} {a : Action σ α}
    {Q : α → LaunchRun σ → Prop} {E : Fault → LaunchRun σ → Prop} {r : LaunchRun σ} :
    (noted call answer a).wp Q E r ↔
      a.wp (fun x t => Q x ⟨t, r.log ++ [⟨call, r.state, .ok (answer x)⟩]⟩)
        (fun e t => E e ⟨t, r.log ++ [⟨call, r.state, .error e⟩]⟩) r.state := by
  unfold wp noted
  cases a r.state <;> rfl

theorem wp_traced_find (d : LaunchInterface (Action σ) δ) {id : DeviceId}
    {Q : DeviceId × δ → LaunchRun σ → Prop} {E : Fault → LaunchRun σ → Prop} {r : LaunchRun σ} :
    (d.traced.find id).wp Q E r ↔
      (d.find id).wp (fun source s => Q (id, source) { r with state := s })
        (fun e s => E e { r with state := s }) r.state := by
  simp only [traced, unnoted, wp_map, wp_within]

/-! ## Writing down changes nothing -/

/-- Apart from what it writes down, the one action does what the other does. -/
def Erases (f : β → α) (a : Action (LaunchRun σ) β) (b : Action σ α) : Prop :=
  ∀ r, b r.state =
    match a r with
    | .ok x t => .ok (f x) t.state
    | .error e t => .error e t.state

theorem Erases.outcome {a : Action (LaunchRun σ) α} {b : Action σ α} (erases : Erases id a b)
    (r : LaunchRun σ) : b.outcome r.state = ((a.outcome r).1, (a.outcome r).2.state) := by
  unfold Action.outcome
  rw [erases r]
  cases a r <;> rfl

theorem Erases.pure {f : β → α} (x : β) :
    Erases f (Pure.pure x : Action (LaunchRun σ) β) (Pure.pure (f x)) := fun _ => rfl

theorem Erases.bind {γ ε : Type} {f : β → α} {g : ε → γ} {a : Action (LaunchRun σ) β}
    {b : Action σ α} {k : β → Action (LaunchRun σ) ε} {l : α → Action σ γ} (first : Erases f a b)
    (rest : ∀ x, Erases g (k x) (l (f x))) : Erases g (a >>= k) (b >>= l) := by
  intro r
  have first := first r
  simp only [Bind.bind, EStateM.bind]
  cases ended : a r with
  | ok x t =>
    rw [ended] at first
    simp only [first]
    exact rest x t
  | error e t =>
    rw [ended] at first
    simp only [first]

theorem Erases.noted (call : LaunchCall) (answer : α → LaunchAnswer) (a : Action σ α) :
    Erases id (noted call answer a) a := by
  intro r
  unfold LaunchInterface.noted
  cases a r.state <;> rfl

theorem erases_find (d : LaunchInterface (Action σ) δ) (id : DeviceId) :
    Erases Prod.snd (d.traced.find id) (d.find id) := by
  intro r
  simp only [traced, unnoted, Functor.map, EStateM.map, within]
  cases d.find id r.state <;> rfl

theorem Erases.forM {xs : List β} {a : β → Action (LaunchRun σ) PUnit} {b : β → Action σ PUnit}
    (each : ∀ x, Erases id (a x) (b x)) : Erases id (xs.forM a) (xs.forM b) := by
  induction xs with
  | nil => exact .pure _
  | cons x xs ih => exact (each x).bind fun _ => ih

theorem Erases.foldlM {xs : List β} {a : α → β → Action (LaunchRun σ) α}
    {b : α → β → Action σ α} (each : ∀ s x, Erases id (a s x) (b s x)) (s : α) :
    Erases id (xs.foldlM a s) (xs.foldlM b s) := by
  induction xs generalizing s with
  | nil => exact .pure _
  | cons x xs ih =>
    rw [List.foldlM_cons, List.foldlM_cons]
    exact (each s x).bind fun s => ih s

theorem erases_localize (d : LaunchInterface (Action σ) δ) (node : Int) (range : Range) :
    Erases id (d.traced.localize node range) (d.localize node range) := by
  refine (erases_find d _).bind fun source => (Erases.noted _ _ _).bind fun pointer => ?_
  cases pointer with
  | some pointer => exact .pure _
  | none =>
    refine (Erases.noted _ _ _).bind fun scratch => (Erases.noted _ _ _).bind fun _ => ?_
    exact .pure _

theorem erases_giveBack (d : LaunchInterface (Action σ) δ) (entry : ForeignNode) :
    Erases id (d.traced.giveBack entry) (d.giveBack entry) := by
  unfold giveBack
  cases entry.scratch with
  | some scratch =>
    exact (erases_find d _).bind fun source => (Erases.noted _ _ _).bind fun _ => .noted _ _ _
  | none =>
    refine (Erases.noted _ _ _).bind fun owned => ?_
    cases owned with
    | true => exact .noted _ _ _
    | false => exact .pure _

/-- Writing its calls down changes nothing about a launch. -/
theorem traced_launch (d : LaunchInterface (Action σ) δ) (here : DeviceId) (stream kernel : UInt32)
    (mapping : Mapping) :
    Erases id (d.traced.launch here stream kernel mapping)
      (d.launch here stream kernel mapping) := by
  refine Erases.bind ?_ fun localized => .bind (.forM fun entry => ?_) fun _ => ?_
  · refine Erases.foldlM (fun (near, foreign) (node, range) => ?_) _
    by_cases isHere : range.device = here
    · simp only [isHere, if_true]
      exact .pure _
    · simp only [isHere, if_false]
      exact (erases_localize d _ _).bind fun _ => .pure _
  · exact (erases_find d _).bind fun source => .noted _ _ _
  · refine (Erases.noted _ _ _).bind fun _ => (Erases.forM (erases_giveBack d)).bind fun _ => ?_
    exact .forM fun entry => (erases_find d _).bind fun source => .noted _ _ _

/-! ## One entry after the other -/

section

variable {m : Type → Type} [Monad m]

/-- Makes ranges local, one after the other: where each of them is, and the foreign nodes. -/
def localizeEach (d : LaunchInterface m δ) (here : DeviceId) :
    List (Int × Range) → m (List (Int × Range) × List ForeignNode)
  | [] => pure ([], [])
  | (node, range) :: rest => do
    if range.device = here then
      let (near, foreign) ← d.localizeEach here rest
      pure ((node, range) :: near, foreign)
    else
      let entry ← d.localize node range
      let (near, foreign) ← d.localizeEach here rest
      pure ((node, entry.near) :: near, entry :: foreign)

/-- The fold puts each entry behind those that it has been through. -/
theorem foldlM_localize [LawfulMonad m] (d : LaunchInterface m δ) (here : DeviceId)
    (entries : List (Int × Range)) (acc : Mapping) (before : List ForeignNode) :
    entries.foldlM (fun (near, foreign) (node, range) => do
      if range.device = here then pure (near.insert node range, foreign)
      else
        let entry ← d.localize node range
        pure (near.insert node entry.near, foreign ++ [entry])) (acc, before) = (do
    let (near, foreign) ← d.localizeEach here entries
    pure (near.foldl (fun m e => m.insert e.1 e.2) acc, before ++ foreign)) := by
  induction entries generalizing acc before with
  | nil => simp [localizeEach]
  | cons entry rest ih =>
    obtain ⟨node, range⟩ := entry
    simp only [pure_bind] at ih
    by_cases isHere : range.device = here
    · simp only [localizeEach, List.foldlM_cons, isHere, if_true, pure_bind, bind_assoc, ih,
        List.foldl_cons]
    · simp only [localizeEach, List.foldlM_cons, isHere, if_false, pure_bind, bind_assoc, ih,
        List.foldl_cons, List.append_assoc, List.singleton_append]

theorem localizeAll_eq [LawfulMonad m] (d : LaunchInterface m δ) (here : DeviceId)
    (mapping : Mapping) :
    d.localizeAll here mapping = (do
      let (near, foreign) ← d.localizeEach here mapping.toList
      pure (SortedMap.ofList near, foreign)) := by
  have whole := d.foldlM_localize here mapping.toList ∅ []
  simp only [pure_bind] at whole
  rw [localizeAll]
  exact whole

end

/-! ## What a launch keeps -/

/-- Whatever is asked of the devices, the relation holds from before to after. -/
structure Steps (R : σ → σ → Prop) (d : LaunchInterface (Action σ) δ) : Prop where
  find : ∀ id, (d.find id).Evolves R
  localAlias : ∀ range, (d.localAlias range).Evolves R
  allocate : ∀ params, (d.allocate params).Evolves R
  copyIn : ∀ dst src source, (d.copyIn dst src source).Evolves R
  syncLocal : ∀ range source, (d.syncLocal range source).Evolves R
  run : ∀ stream kernel mapping, (d.run stream kernel mapping).Evolves R
  copyOut : ∀ source dst src, (d.copyOut source dst src).Evolves R
  isAlias : ∀ pointer, (d.isAlias pointer).Evolves R
  deallocate : ∀ alloc, (d.deallocate alloc).Evolves R
  syncSource : ∀ source range, (d.syncSource source range).Evolves R

variable {R : σ → σ → Prop} [Evolution R] {d : LaunchInterface (Action σ) δ}

theorem Steps.localize (steps : d.Steps R) (node : Int) (range : Range) :
    (d.localize node range).Evolves R := by
  refine (steps.find _).bind fun source => (steps.localAlias _).bind fun pointer => ?_
  cases pointer with
  | some pointer => exact .pure _
  | none =>
    exact (steps.allocate _).bind fun _ => (steps.copyIn _ _ _).bind fun _ => .pure _

theorem Steps.giveBack (steps : d.Steps R) (entry : ForeignNode) :
    (d.giveBack entry).Evolves R := by
  unfold LaunchInterface.giveBack
  cases entry.scratch with
  | some scratch =>
    exact (steps.find _).bind fun _ => (steps.copyOut _ _ _).bind fun _ => steps.deallocate _
  | none => exact (steps.isAlias _).bind fun _ => .ite (steps.deallocate _) (.pure _)

theorem Steps.launch (steps : d.Steps R) (here : DeviceId) (stream kernel : UInt32)
    (mapping : Mapping) : (d.launch here stream kernel mapping).Evolves R := by
  refine Evolves.bind (R := R) (.foldlM ?_ _) fun localized => ?_
  · exact fun _ _ => .ite (.pure _) ((steps.localize _ _).bind fun _ => .pure _)
  · refine .bind (.forM fun _ => (steps.find _).bind fun _ => steps.syncLocal _ _) fun _ => ?_
    refine (steps.run _ _ _).bind fun _ => (Evolves.forM steps.giveBack).bind fun _ => ?_
    exact .forM fun _ => (steps.find _).bind fun _ => steps.syncSource _ _

end LaunchInterface

end DeviceLayer
