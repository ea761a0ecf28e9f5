import DeviceLayer.Proofs.Promises

/-!
# What failed recording calls leave behind

A recording call looks up what it needs and then records it, so a call that fails has recorded
nothing. Binding resources is the exception: it records each binding as soon as it is resolved, and
a failure on the way leaves the bindings before it in the list. What the list is bound to, and the
render pass it is in, are as before after every failure.

What a call does to a list depends neither on the commands recorded so far nor on the sets taken, so
where failures leave nothing recorded, the list is the one that the calls that succeed make alone.

* `RecordingCall.spares` — other calls leave the list as it was.
* `Recording.bindings` — the lookups of binding resources, each with one command to record.
* `Recording.Leaves` — what a failed call leaves recorded.
* `CommandList.succeeding`, `leftovers` — the calls that succeed, and what the others leave.
* `CommandList.failures_spare` — the whole statement.
* `CommandList.failure_leaves_group` — a failed call after which a group is bound.
-/

namespace DeviceLayer

open DeviceLayer.Action

/-! ## Lookups come first -/

namespace Recording

variable {α : Type}

def SameList (r t : Recording) : Prop := t.list = r.list

instance : Evolution SameList where
  refl _ := rfl
  trans first second := second.trans first

theorem sure_push (command : Recorded) : Sure (push command) := fun _ => trivial

theorem sure_updateList (f : CommandList → CommandList) : Sure (updateList f) := fun _ => trivial

theorem sameList_onDevice (a : Action (Live Gpu) α) : (onDevice a).Evolves SameList :=
  evolves_onDevice (.any a) fun _ _ _ => rfl

theorem sameList_checkRecording : checkRecording.Evolves SameList := evolves_checkRecording

theorem sameList_checkOutsidePass (what : String) : (checkOutsidePass what).Evolves SameList :=
  evolves_checkOutsidePass what

theorem sameList_current : current.Evolves SameList := evolves_current

end Recording

/-- Any call but binding resources looks up all it needs before it changes the list. -/
theorem RecordingCall.spares {call : RecordingCall}
    (other : ∀ binder, call ≠ .bindResources binder) : call.run.Spares Recording.SameList := by
  open Recording in
  cases call with
  | bindResources binder => exact absurd rfl (other binder)
  | bindPipeline pipeline =>
    refine .after sameList_checkRecording fun _ => ?_
    cases pipeline.kind with
    | compute native =>
      refine .after (sameList_checkOutsidePass _) fun _ => Sure.spares ?_
      exact (sure_push _).bind fun _ => sure_updateList _
    | raster template =>
      refine .after sameList_current fun l => .after (.orRefuse _ _) fun target => ?_
      refine .after (sameList_onDevice _) fun info => .after (sameList_onDevice _) fun native => ?_
      exact Sure.spares ((sure_push _).bind fun _ => (sure_push _).bind fun _ => sure_updateList _)
  | barrier => exact .after sameList_checkRecording fun _ => (sure_push _).spares
  | copy dst src size =>
    refine .after sameList_checkRecording fun _ => .after (sameList_checkOutsidePass _) fun _ => ?_
    refine .after (sameList_onDevice _) fun source => .after (sameList_onDevice _) fun target => ?_
    exact .after (.require _ _) fun _ => (sure_push _).spares
  | fill pointer size word =>
    refine .after sameList_checkRecording fun _ => .after (sameList_checkOutsidePass _) fun _ => ?_
    refine .after (sameList_onDevice _) fun range => .after (.require _ _) fun _ => ?_
    split
    · exact .pure _
    · split
      · exact (sure_push _).spares
      · exact .after (sameList_onDevice _) fun pattern => (sure_push _).spares
  | dispatch x y z =>
    refine .after sameList_checkRecording fun _ => .after sameList_current fun _ => ?_
    exact .after (.assert _ _) fun _ => (sure_push _).spares
  | beginPass area colors depth =>
    refine .after sameList_checkRecording fun _ => .after (sameList_checkOutsidePass _) fun _ => ?_
    refine .after (sameList_onDevice _) fun c => .after (sameList_onDevice _) fun d => ?_
    refine .after (.orRefuse _ _) fun extent => .after (sameList_onDevice _) fun pass => ?_
    refine .after (sameList_onDevice _) fun framebuffer => ?_
    refine .after (sameList_onDevice _) fun fb => .after (sameList_onDevice _) fun info => ?_
    refine .after (.require _ _) fun _ => Sure.spares ?_
    exact (sure_push _).bind fun _ => sure_updateList _
  | endPass =>
    refine .after sameList_checkRecording fun _ => .after sameList_current fun _ => ?_
    refine .after (.assert _ _) fun _ => Sure.spares ?_
    exact (sure_updateList _).bind fun _ => sure_push _
  | draw count first =>
    refine .after sameList_checkRecording fun _ => .after sameList_current fun _ => ?_
    refine .after (.assert _ _) fun _ => ?_
    split
    · exact (sure_push _).spares
    · exact .pure _
  | drawIndexed count baseVertex first =>
    refine .after sameList_checkRecording fun _ => .after sameList_current fun _ => ?_
    refine .after (.assert _ _) fun _ => ?_
    split
    · split
      · exact (sure_push _).spares
      · exact .pure _
    · exact .pure _

/-! ## Binding resources -/

namespace Recording

/-- Takes and writes the set of one bind group index, without recording it. -/
def group (binder : Binder) (index : UInt32) (layout : CacheHandle) (slots : SetLayout) :
    Action Recording Recorded := do
  let set ← onDevice (Gpu.allocSet layout)
  updateList fun l => { l with sets := l.sets ++ [set] }
  let group ← onDevice (Gpu.writeSet set slots binder index)
  pure (.bindGroup index group)

def slice (pointer : Pointer) (command : Buffer → Nat → Recorded) : Action Recording Recorded := do
  let (buffer, offset) ← onDevice (Gpu.bufferSlice pointer)
  pure (command buffer offset)

/-- What binding resources looks up for a pipeline, in order; each lookup gives one command. -/
def bindings (binder : Binder) (b : BoundPipeline) : List (Action Recording Recorded) :=
  (b.sets.zipIdx.map fun e => group binder (UInt32.ofNat e.2) e.1.1 e.1.2) ++
    if b.graphics then
      (binder.indexBuffer.toList.map fun e => slice e.1 (.indexBuffer · · e.2)) ++
        binder.vertexBuffers.toList.map fun e => slice e.2 (.vertexBuffer e.1)
    else []

theorem forall_mem_bindings {P : Action Recording Recorded → Prop} (binder : Binder)
    (b : BoundPipeline) (groups : ∀ index layout slots, P (group binder index layout slots))
    (slices : ∀ pointer command, P (slice pointer command)) :
    ∀ lookUp ∈ bindings binder b, P lookUp := by
  intro lookUp member
  obtain inSets | inGeometry := List.mem_append.1 member
  · obtain ⟨e, -, rfl⟩ := List.mem_map.1 inSets
    exact groups _ _ _
  · split at inGeometry
    · obtain inIndex | inVertex := List.mem_append.1 inGeometry
      · obtain ⟨e, -, rfl⟩ := List.mem_map.1 inIndex
        exact slices _ _
      · obtain ⟨e, -, rfl⟩ := List.mem_map.1 inVertex
        exact slices _ _
    · exact absurd inGeometry List.not_mem_nil

def recordAll (lookUps : List (Action Recording Recorded)) : Action Recording Unit :=
  lookUps.forM fun lookUp => do push (← lookUp)

theorem bindGeometry_eq (binder : Binder) :
    bindGeometry binder =
      recordAll ((binder.indexBuffer.toList.map fun e => slice e.1 (.indexBuffer · · e.2)) ++
        binder.vertexBuffers.toList.map fun e => slice e.2 (.vertexBuffer e.1)) := by
  cases h : binder.indexBuffer <;> simp [bindGeometry, recordAll, h, slice]

theorem recordAll_bindings (binder : Binder) (b : BoundPipeline) :
    recordAll (bindings binder b) = (do
      b.sets.zipIdx.forM fun ((layout, slots), index) =>
        bindSet binder (UInt32.ofNat index) layout slots
      if b.graphics then bindGeometry binder) := by
  cases graphics : b.graphics <;>
    simp [bindings, recordAll, graphics, bindGeometry_eq, bindSet, group]

theorem bindResources_eq (binder : Binder) :
    bindResources binder = (do
      checkRecording
      let b ← orRefuse (← current).bound .resourcesBeforePipeline
      recordAll (bindings binder b)) := by
  simp only [bindResources, recordAll_bindings]

/-- The lookups succeed one after the other, and what each gives is recorded. -/
inductive Resolves : List (Action Recording Recorded) → Recording → List Recorded → Recording → Prop
  | nil (r : Recording) : Resolves [] r [] r
  | cons {lookUp : Action Recording Recorded} {lookUps : List (Action Recording Recorded)}
    {r s t u : Recording} {command : Recorded} {commands : List Recorded}
    (found : lookUp.outcome r = (.ok command, s)) (pushed : (push command).outcome s = (.ok (), t))
    (rest : Resolves lookUps t commands u) : Resolves (lookUp :: lookUps) r (command :: commands) u

/-- Recording all of it ends well, or it ends at the first lookup that fails. -/
theorem recordAll_ends (lookUps : List (Action Recording Recorded)) (r : Recording) :
    (recordAll lookUps).wp (fun _ t => ∃ commands, Resolves lookUps r commands t)
      (fun e t => ∃ done lookUp rest commands s, lookUps = done ++ lookUp :: rest ∧
        Resolves done r commands s ∧ lookUp.outcome s = (.error e, t)) r := by
  induction lookUps generalizing r with
  | nil => exact ⟨[], .nil r⟩
  | cons lookUp lookUps ih =>
    refine (wp_bind (do push (← lookUp)) fun _ => recordAll lookUps).2 ?_
    simp only [wp_bind]
    refine (wp_outcome lookUp r).mono (fun command s found => ?_) fun e t failed => ?_
    · refine (wp_outcome (push command) s).mono (fun _ t pushed => ?_) (by rintro _ _ ⟨⟩)
      refine (ih t).mono (fun _ u rest => ?_) fun e u ended => ?_
      · obtain ⟨commands, rest⟩ := rest
        exact ⟨_, .cons found pushed rest⟩
      · obtain ⟨done, failing, left, commands, s', rfl, resolved, failed⟩ := ended
        exact ⟨_, _, _, _, _, rfl, .cons found pushed resolved, failed⟩
    · exact ⟨[], lookUp, lookUps, [], r, rfl, .nil r, failed⟩

end Recording

/-- What a list is bound to and the render pass it is in; nothing is recorded and no sets taken. -/
def CommandList.blank (l : CommandList) : CommandList := { l with commands := #[], sets := [] }

namespace Recording

structure TakesSets (r t : Recording) : Prop where
  blank : t.list.blank = r.list.blank
  commands : t.list.commands = r.list.commands

instance : Evolution TakesSets where
  refl _ := ⟨rfl, rfl⟩
  trans first second :=
    ⟨second.blank.trans first.blank, second.commands.trans first.commands⟩

theorem takesSets_onDevice {α : Type} (a : Action (Live Gpu) α) : (onDevice a).Evolves TakesSets :=
  evolves_onDevice (.any a) fun _ _ _ => ⟨rfl, rfl⟩

theorem takesSets_group (binder : Binder) (index : UInt32) (layout : CacheHandle)
    (slots : SetLayout) : (group binder index layout slots).Evolves TakesSets :=
  (takesSets_onDevice _).bind fun _ => (evolves_updateList fun _ => ⟨rfl, rfl⟩).bind fun _ =>
    (takesSets_onDevice _).bind fun _ => .pure _

theorem takesSets_slice (pointer : Pointer) (command : Buffer → Nat → Recorded) :
    (slice pointer command).Evolves TakesSets :=
  (takesSets_onDevice _).bind fun _ => .pure _

theorem takesSets_bindings (binder : Binder) (b : BoundPipeline) :
    ∀ lookUp ∈ bindings binder b, lookUp.Evolves TakesSets :=
  forall_mem_bindings binder b (takesSets_group binder) takesSets_slice

theorem Resolves.recorded {lookUps : List (Action Recording Recorded)} {r t : Recording}
    {commands : List Recorded} (h : Resolves lookUps r commands t)
    (each : ∀ lookUp ∈ lookUps, lookUp.Evolves TakesSets) :
    t.list.blank = r.list.blank ∧
      t.list.commands.toList = r.list.commands.toList ++ commands := by
  induction h with
  | nil r => exact ⟨rfl, (List.append_nil _).symm⟩
  | @cons lookUp lookUps r s t u command commands found pushed rest ih =>
    obtain ⟨takes, each⟩ := List.forall_mem_cons.1 each
    have takes : TakesSets r s := (takes r).ended found
    obtain rfl : { s with list.commands := s.list.commands.push command } = t :=
      (Prod.mk.inj pushed).2
    obtain ⟨blank, recorded⟩ := ih each
    constructor
    · exact blank.trans takes.blank
    · rw [recorded, Array.toList_push, takes.commands, List.append_assoc]
      rfl

/-- What a call that fails on a list leaves recorded there. -/
inductive Leaves (r : Recording) (e : Fault) : RecordingCall → List Recorded → Prop
  | nothing {call : RecordingCall} (other : ∀ binder, call ≠ .bindResources binder) :
    Leaves r e call []
  /-- The list does not record any more, or there is nothing to bind for. -/
  | refused (binder : Binder) (early : r.list.finalized = true ∨ r.list.bound = none) :
    Leaves r e (.bindResources binder) []
  /-- What was resolved before the first lookup that failed. -/
  | begun {binder : Binder} {b : BoundPipeline} {done rest : List (Action Recording Recorded)}
    {lookUp : Action Recording Recorded} {commands : List Recorded} {t : Recording}
    (recording : r.list.finalized = false) (isBound : r.list.bound = some b)
    (order : bindings binder b = done ++ lookUp :: rest) (resolved : Resolves done r commands t)
    (failed : (lookUp.outcome t).1 = .error e) : Leaves r e (.bindResources binder) commands

/-- After a failure the list is bound to what it was bound to, in the render pass that it was in,
and recorded is what was and what the call leaves. -/
structure Left (r : Recording) (e : Fault) (call : RecordingCall) (t : Recording) : Prop where
  blank : t.list.blank = r.list.blank
  commands : ∃ left, t.list.commands.toList = r.list.commands.toList ++ left ∧ Leaves r e call left

theorem bindResources_leaves (binder : Binder) (r : Recording) :
    (bindResources binder).wp (fun _ _ => True) (fun e t => Left r e (.bindResources binder) t)
      r := by
  have refused (e : Fault) (early : r.list.finalized = true ∨ r.list.bound = none) :
      Left r e (.bindResources binder) r :=
    ⟨rfl, [], (List.append_nil _).symm, .refused binder early⟩
  rw [bindResources_eq]
  simp only [wp_bind, wp_checkRecording, wp_current, wp_orRefuse]
  refine ⟨fun recording => ⟨fun b isBound => ?_, fun unbound => refused _ (.inr unbound)⟩,
    fun finalized => refused _ (.inl finalized)⟩
  -- One of the lookups failed. Those before it are recorded, and it took a set at most.
  refine (recordAll_ends (bindings binder b) r).mono (fun _ _ _ => trivial) fun e t ended => ?_
  obtain ⟨done, lookUp, rest, commands, s, order, resolved, failed⟩ := ended
  have takes := takesSets_bindings binder b
  rw [order] at takes
  obtain ⟨ofDone, ofRest⟩ := List.forall_mem_append.1 takes
  have last := (List.forall_mem_cons.1 ofRest).1.outcome s
  rw [failed] at last
  obtain ⟨blank, recorded⟩ := resolved.recorded ofDone
  refine ⟨last.blank.trans blank, commands, ?_, .begun recording isBound order resolved ?_⟩
  · rw [last.commands, recorded]
  · rw [failed]

end Recording

theorem RecordingCall.leaves (call : RecordingCall) (r : Recording) :
    call.run.wp (fun _ _ => True) (fun e t => Recording.Left r e call t) r := by
  have other (noBinding : ∀ binder, call ≠ .bindResources binder) :
      call.run.wp (fun _ _ => True) (fun e t => Recording.Left r e call t) r := by
    refine (RecordingCall.spares noBinding r).mono (fun _ _ _ => trivial) fun e t same => ?_
    have same : t.list = r.list := same
    refine ⟨congrArg _ same, [], ?_, .nothing noBinding⟩
    rw [same, List.append_nil]
  cases call with
  | bindResources binder => exact Recording.bindResources_leaves binder r
  | _ => exact other nofun

/-! ## What calls do not look at -/

namespace Action

variable {σ α β : Type} {g : σ → σ}

/-- The action does not see what `g` changes, and leaves it changed. -/
def Ignores (g : σ → σ) (a : Action σ α) : Prop :=
  ∀ s, a.outcome (g s) = ((a.outcome s).1, g (a.outcome s).2)

namespace Ignores

theorem pure (x : α) : Ignores g (Pure.pure x) := fun _ => rfl

theorem throw (e : Fault) : Ignores g (throw e : Action σ α) := fun _ => rfl

theorem bind {a : Action σ β} {f : β → Action σ α} (first : Ignores g a)
    (second : ∀ x, Ignores g (f x)) : Ignores g (a >>= f) := by
  intro s
  rw [outcome_bind, outcome_bind, first s]
  obtain ⟨result, t⟩ := a.outcome s
  cases result with
  | ok x => exact second x t
  | error e => rfl

theorem ite {p : Prop} [Decidable p] {a b : Action σ α} (yes : Ignores g a) (no : Ignores g b) :
    Ignores g (if p then a else b) := by
  split
  · exact yes
  · exact no

theorem require (holds : Bool) (cause : Precondition) : Ignores g (require holds cause) :=
  (Ignores.pure _).ite (Ignores.throw _)

theorem assert (holds : Bool) (failed : Assertion) : Ignores g (assert holds failed) :=
  (Ignores.pure _).ite (Ignores.throw _)

theorem orRefuse (value : Option α) (cause : Precondition) : Ignores g (orRefuse value cause) := by
  cases value with
  | none => exact Ignores.throw _
  | some x => exact Ignores.pure _

end Ignores

end Action

/-- The list, had these commands been recorded and these sets taken before. -/
def CommandList.preceded (commands : Array Recorded) (sets : List SetHandle) (l : CommandList) :
    CommandList :=
  { l with commands := commands ++ l.commands, sets := sets ++ l.sets }

namespace Recording

variable {α : Type} {commands : Array Recorded} {sets : List SetHandle}

def preceded (commands : Array Recorded) (sets : List SetHandle) (r : Recording) : Recording :=
  { r with list := r.list.preceded commands sets }

theorem ignores_onDevice (a : Action (Live Gpu) α) :
    (onDevice a).Ignores (preceded commands sets) := by
  intro r
  simp only [onDevice, within, outcome, preceded]
  cases a r.live <;> rfl

theorem ignores_updateList {f : CommandList → CommandList}
    (h : ∀ l, f (l.preceded commands sets) = (f l).preceded commands sets) :
    (updateList f).Ignores (preceded commands sets) :=
  fun r => congrArg (fun l => (Except.ok (), { r with list := l })) (h r.list)

theorem ignores_push (command : Recorded) : (push command).Ignores (preceded commands sets) :=
  ignores_updateList fun l => by simp [CommandList.preceded, Array.push_append]

theorem ignores_current {f : CommandList → Action Recording α}
    (same : ∀ l, f (l.preceded commands sets) = f l)
    (each : ∀ l, (f l).Ignores (preceded commands sets)) :
    (current >>= f).Ignores (preceded commands sets) := by
  intro r
  rw [outcome_bind, outcome_bind]
  exact (congrArg (fun a => Action.outcome a _) (same r.list)).trans (each r.list r)

theorem ignores_checkRecording : checkRecording.Ignores (preceded commands sets) :=
  ignores_current (fun _ => rfl) fun _ => .assert _ _

theorem ignores_checkOutsidePass (what : String) :
    (checkOutsidePass what).Ignores (preceded commands sets) :=
  ignores_current (fun _ => rfl) fun _ => .require _ _

theorem ignores_recordAll {lookUps : List (Action Recording Recorded)}
    (each : ∀ lookUp ∈ lookUps, lookUp.Ignores (preceded commands sets)) :
    (recordAll lookUps).Ignores (preceded commands sets) := by
  induction lookUps with
  | nil => exact .pure _
  | cons lookUp lookUps ih =>
    obtain ⟨first, rest⟩ := List.forall_mem_cons.1 each
    exact (first.bind fun _ => ignores_push _).bind fun _ => ih rest

theorem ignores_bindings (binder : Binder) (b : BoundPipeline) :
    ∀ lookUp ∈ bindings binder b, lookUp.Ignores (preceded commands sets) := by
  refine forall_mem_bindings binder b (fun index layout slots => ?_) fun pointer command => ?_
  · refine (ignores_onDevice _).bind fun set => (ignores_updateList fun l => ?_).bind fun _ => ?_
    · simp [CommandList.preceded]
    · exact (ignores_onDevice _).bind fun _ => .pure _
  · exact (ignores_onDevice _).bind fun _ => .pure _

end Recording

/-- What a call does depends neither on what is recorded nor on the sets taken. -/
theorem RecordingCall.ignores (commands : Array Recorded) (sets : List SetHandle)
    (call : RecordingCall) : call.run.Ignores (Recording.preceded commands sets) := by
  open Recording in
  cases call with
  | bindPipeline pipeline =>
    refine ignores_checkRecording.bind fun _ => ?_
    cases pipeline.kind with
    | compute native =>
      refine (ignores_checkOutsidePass _).bind fun _ => (ignores_push _).bind fun _ => ?_
      exact ignores_updateList fun _ => rfl
    | raster template =>
      refine ignores_current (fun _ => rfl) fun l => (Ignores.orRefuse _ _).bind fun target => ?_
      refine (ignores_onDevice _).bind fun info => (ignores_onDevice _).bind fun native => ?_
      refine (ignores_push _).bind fun _ => (ignores_push _).bind fun _ => ?_
      exact ignores_updateList fun _ => rfl
  | bindResources binder =>
    rw [RecordingCall.run, bindResources_eq]
    refine ignores_checkRecording.bind fun _ => ignores_current (fun _ => rfl) fun l => ?_
    exact (Ignores.orRefuse _ _).bind fun b => ignores_recordAll (ignores_bindings binder b)
  | barrier => exact ignores_checkRecording.bind fun _ => ignores_push _
  | copy dst src size =>
    refine ignores_checkRecording.bind fun _ => (ignores_checkOutsidePass _).bind fun _ => ?_
    refine (ignores_onDevice _).bind fun source => (ignores_onDevice _).bind fun target => ?_
    exact (Ignores.require _ _).bind fun _ => ignores_push _
  | fill pointer size word =>
    refine ignores_checkRecording.bind fun _ => (ignores_checkOutsidePass _).bind fun _ => ?_
    refine (ignores_onDevice _).bind fun range => (Ignores.require _ _).bind fun _ => ?_
    refine .ite (.pure _) (.ite (ignores_push _) ?_)
    exact (ignores_onDevice _).bind fun pattern => ignores_push _
  | dispatch x y z =>
    refine ignores_checkRecording.bind fun _ => ignores_current (fun _ => rfl) fun _ => ?_
    exact (Ignores.assert _ _).bind fun _ => ignores_push _
  | beginPass area colors depth =>
    refine ignores_checkRecording.bind fun _ => (ignores_checkOutsidePass _).bind fun _ => ?_
    refine (ignores_onDevice _).bind fun c => (ignores_onDevice _).bind fun d => ?_
    refine (Ignores.orRefuse _ _).bind fun extent => (ignores_onDevice _).bind fun pass => ?_
    refine (ignores_onDevice _).bind fun framebuffer => (ignores_onDevice _).bind fun fb => ?_
    refine (ignores_onDevice _).bind fun info => (Ignores.require _ _).bind fun _ => ?_
    exact (ignores_push _).bind fun _ => ignores_updateList fun _ => rfl
  | endPass =>
    refine ignores_checkRecording.bind fun _ => ignores_current (fun _ => rfl) fun _ => ?_
    refine (Ignores.assert _ _).bind fun _ => .bind ?_ fun _ => ignores_push _
    exact ignores_updateList fun _ => rfl
  | draw count first =>
    refine ignores_checkRecording.bind fun _ => ignores_current (fun _ => rfl) fun _ => ?_
    refine (Ignores.assert _ _).bind fun _ => ?_
    split
    · exact ignores_push _
    · exact .pure _
  | drawIndexed count baseVertex first =>
    refine ignores_checkRecording.bind fun _ => ignores_current (fun _ => rfl) fun _ => ?_
    refine (Ignores.assert _ _).bind fun _ => .ite ?_ (.pure _)
    split
    · exact ignores_push _
    · exact .pure _

/-! ## Lists without the calls that failed -/

namespace CommandList

def succeeds (l : CommandList) (made : Live Gpu × RecordingCall) : Bool :=
  (made.2.run.outcome ⟨made.1, l⟩).1.isOk

def adds (l : CommandList) (made : Live Gpu × RecordingCall) : List Recorded :=
  (l.blank.record made).commands.toList

def succeeding (l : CommandList) : List (Live Gpu × RecordingCall) → List (Live Gpu × RecordingCall)
  | [] => []
  | made :: calls =>
    (if l.succeeds made then [made] else []) ++ succeeding (l.record made) calls

def leftovers (l : CommandList) : List (Live Gpu × RecordingCall) → List Recorded
  | [] => []
  | made :: calls =>
    (if l.succeeds made then [] else l.adds made) ++ leftovers (l.record made) calls

variable {l l' : CommandList}

theorem outcome_blank (l : CommandList) (made : Live Gpu × RecordingCall) :
    made.2.run.outcome ⟨made.1, l⟩ =
      ((made.2.run.outcome ⟨made.1, l.blank⟩).1,
        (made.2.run.outcome ⟨made.1, l.blank⟩).2.preceded l.commands l.sets) := by
  have same : (⟨made.1, l⟩ : Recording) =
      Recording.preceded l.commands l.sets ⟨made.1, l.blank⟩ := by
    simp [Recording.preceded, preceded, blank]
  exact (congrArg made.2.run.outcome same).trans
    (made.2.ignores l.commands l.sets ⟨made.1, l.blank⟩)

theorem record_blank (l : CommandList) (made : Live Gpu × RecordingCall) :
    l.record made = (l.blank.record made).preceded l.commands l.sets :=
  congrArg (fun o : Except Fault Unit × Recording => o.2.list) (l.outcome_blank made)

theorem record_commands (l : CommandList) (made : Live Gpu × RecordingCall) :
    (l.record made).commands.toList = l.commands.toList ++ l.adds made := by
  rw [record_blank]
  exact Array.toList_append

theorem adds_congr (same : l'.blank = l.blank) (made : Live Gpu × RecordingCall) :
    l'.adds made = l.adds made := by
  rw [adds, adds, same]

theorem record_congr (same : l'.blank = l.blank) (made : Live Gpu × RecordingCall) :
    (l'.record made).blank = (l.record made).blank := by
  rw [record_blank, l.record_blank, same]
  rfl

theorem blank_of_fails {made : Live Gpu × RecordingCall} (fails : l.succeeds made = false) :
    (l.record made).blank = l.blank := by
  obtain ⟨e, failed⟩ : ∃ e, (made.2.run.outcome ⟨made.1, l⟩).1 = .error e := by
    simp only [succeeds] at fails
    cases ended : (made.2.run.outcome ⟨made.1, l⟩).1 with
    | ok => rw [ended] at fails; cases fails
    | error e => exact ⟨e, rfl⟩
  exact ((made.2.leaves ⟨made.1, l⟩).failed (Prod.ext failed rfl)).blank

/-- Without the calls that fail a list is bound to the same, and recorded is what they do not
leave. -/
theorem run_succeeding (same : l'.blank = l.blank) (calls : List (Live Gpu × RecordingCall)) :
    ∃ added kept,
      (calls.foldl record l).commands.toList = l.commands.toList ++ added ∧
        ((succeeding l calls).foldl record l').commands.toList = l'.commands.toList ++ kept ∧
        ((succeeding l calls).foldl record l').blank = (calls.foldl record l).blank ∧
        kept.Sublist added ∧ added.length = kept.length + (leftovers l calls).length := by
  -- Both lists are taken through the calls side by side: `l` makes all of them, `l'` those that
  -- succeed on `l`. They differ in what is recorded, which no call looks at.
  induction calls generalizing l l' with
  | nil => exact ⟨[], [], (List.append_nil _).symm, (List.append_nil _).symm, same, .slnil, rfl⟩
  | cons made calls ih =>
    cases ended : l.succeeds made with
    | true =>
      obtain ⟨added, kept, all, some, alike, sub, lengths⟩ := ih (record_congr same made)
      refine ⟨l.adds made ++ added, l.adds made ++ kept, ?_, ?_, ?_, sub.append_left _, ?_⟩
      · rw [List.foldl_cons, all, record_commands, List.append_assoc]
      · simp only [succeeding, ended, if_true, List.singleton_append, List.foldl_cons]
        rw [some, record_commands, adds_congr same, List.append_assoc]
      · simpa only [succeeding, ended, if_true, List.singleton_append, List.foldl_cons] using alike
      · simp only [leftovers, ended, if_true, List.nil_append, List.length_append, lengths]
        omega
    | false =>
      obtain ⟨added, kept, all, some, alike, sub, lengths⟩ :=
        ih (same.trans (blank_of_fails ended).symm)
      refine ⟨l.adds made ++ added, kept, ?_, ?_, ?_, ?_, ?_⟩
      · rw [List.foldl_cons, all, record_commands, List.append_assoc]
      · simpa [succeeding, ended] using some
      · simpa [succeeding, ended] using alike
      · exact sub.trans (List.sublist_append_right _ _)
      · simp only [leftovers, ended, Bool.false_eq_true, if_false, List.length_append, lengths]
        omega

/-- The calls that succeed record the same alone exactly if the others leave nothing. -/
theorem closed_succeeding (buffer : CommandBufferId) (calls : List (Live Gpu × RecordingCall)) :
    (recorded buffer (succeeding { buffer } calls)).closed = (recorded buffer calls).closed ↔
      leftovers { buffer } calls = [] := by
  obtain ⟨added, kept, all, some, alike, sub, lengths⟩ :=
    @run_succeeding { buffer } { buffer } rfl calls
  have all : (recorded buffer calls).commands.toList = added := all
  have some : (recorded buffer (succeeding { buffer } calls)).commands.toList = kept := some
  have target := congrArg CommandList.target alike
  change (recorded buffer (succeeding { buffer } calls)).target =
    (recorded buffer calls).target at target
  rw [closed, closed, target, all, some, List.append_cancel_right_eq]
  constructor
  · rintro rfl
    exact List.length_eq_zero_iff.1 (by omega)
  · intro nothing
    exact sub.eq_of_length (by rw [lengths, nothing]; rfl)

/-- After a call that fails a list is bound as before and in the same render pass, and recorded is
what was, and of a call that binds resources the bindings that were resolved. A list where the calls
that fail leave nothing is finalized as if only those that succeed had been made. -/
theorem failures_spare (buffer : CommandBufferId) (calls : List (Live Gpu × RecordingCall))
    (live : Live Gpu) :
    (∀ r call e t, call.run.outcome r = (.error e, t) → Recording.Left r e call t) ∧
      ((recorded buffer (succeeding { buffer } calls)).closed = (recorded buffer calls).closed ↔
        leftovers { buffer } calls = []) ∧
      ∃ trace,
        (Recording.finalize.outcome ⟨live, recorded buffer (succeeding { buffer } calls)⟩).1 =
          .ok (some trace) ∧
        (leftovers { buffer } calls = [] →
          (Recording.finalize.outcome ⟨live, recorded buffer calls⟩).1 = .ok (some trace)) := by
  have same := closed_succeeding buffer calls
  refine ⟨fun r call e t failed => (call.leaves r).failed failed, same, _,
    (open_recorded _ _).finalize live, fun nothing => ?_⟩
  rw [(open_recorded _ _).finalize, same.2 nothing]

/-- Resources for two groups of a compute pipeline, the first in the buffer of the device. -/
def twoGroups (offset : UInt64) (second : UInt32) : Binder :=
  (Binder.putSlot {} 0 0 ⟨.readWriteBuffer, ⟨⟨1⟩, 0, offset⟩, 16⟩).putSlot 1 0
    ⟨.readWriteBuffer, ⟨⟨1⟩, second, 0⟩, 16⟩

/-- A list with such a pipeline and both groups bound. -/
def boundTwice : Recording :=
  let slots : CacheHandle × SetLayout := (⟨0⟩, .ofEntries [(0, .readWriteBuffer)])
  let layout : NativeLayout := ⟨⟨.layout, 0⟩, ⟨.layout, 0⟩⟩
  let native : NativePipeline := ⟨⟨.computePipeline, 0⟩, ⟨.computePipeline, 0⟩⟩
  ((do
    Recording.bindPipeline
      ⟨0, "k", {}, [slots, slots], ⟨"k", [layout, layout]⟩, .compute native⟩
    Recording.bindResources (twoGroups 0 0)).outcome ⟨furnished, { buffer := ⟨0⟩ }⟩).2

/-- So not every call that fails leaves the recorded commands as they were: binding resources again,
with no buffer for the second group, leaves a first group recorded. -/
theorem failure_leaves_group :
    ¬∀ r (call : RecordingCall) e t, call.run.outcome r = (.error e, t) →
      t.list.blank = r.list.blank ∧ t.list.commands = r.list.commands := by
  intro always
  have ended : ((RecordingCall.bindResources (twoGroups 256 7)).run.outcome boundTwice).1.isOk =
        false ∧
      ((RecordingCall.bindResources (twoGroups 256 7)).run.outcome
        boundTwice).2.list.commands.size = boundTwice.list.commands.size + 1 := by
    decide +kernel
  obtain ⟨fails, grown⟩ := ended
  have kept := always boundTwice (.bindResources (twoGroups 256 7))
  generalize (RecordingCall.bindResources (twoGroups 256 7)).run.outcome boundTwice = o at *
  obtain ⟨result, t⟩ := o
  cases result with
  | ok => cases fails
  | error e =>
    obtain ⟨-, same⟩ := kept e t rfl
    rw [same] at grown
    omega

end CommandList

end DeviceLayer
