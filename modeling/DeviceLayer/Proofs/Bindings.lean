import DeviceLayer.Proofs.Recorder
import Mathlib.Data.List.Induction

/-!
# What dispatches run with

A native pass begins with nothing bound, so a dispatch runs with what was bound in its own pass. The
replay ends compute passes and begins new ones wherever it has to. What a dispatch runs with does
not depend on that: it is what was bound last when the dispatch was recorded.

* `Bindings.dispatches` — the dispatches of a native trace, each with what it runs with.
* `Recorded.bindings` — what was bound last, read off the commands recorded so far.
* `Recorded.inOnePass` — a list as if it all ran in one compute pass.
* `Replay.Follows` — the invariant of the replay; every recorded command keeps it.
* `CommandList.recorded` — what any recording calls make of a list.
* `CommandList.dispatches_transparent` — the dispatches of a finalized list.
-/

namespace DeviceLayer

open DeviceLayer.Action

/-! ## In a native trace -/

/-- What commands of a native pass work with. -/
structure Bindings where
  pipeline : Option NativePipeline := none
  groups : UInt32 → Option BindGroup := fun _ => none

/-- A dispatch and what it runs with. -/
structure Dispatched where
  x : UInt32
  y : UInt32
  z : UInt32
  bindings : Bindings

namespace Bindings

def bindGroup (b : Bindings) (index : UInt32) (group : BindGroup) : Bindings :=
  { b with groups := fun i => if i = index then some group else b.groups i }

/-- Every pass begins with nothing bound. -/
def next (b : Bindings) : Command → Bindings
  | .beginCompute | .beginRender .. => {}
  | .pipeline pipeline => { b with pipeline := some pipeline }
  | .bindGroup index group => b.bindGroup index group
  | _ => b

def after (b : Bindings) (trace : List Command) : Bindings := trace.foldl next b

/-- The dispatches of a trace, in order. -/
def dispatches (b : Bindings) : List Command → List Dispatched
  | [] => []
  | .dispatch x y z :: rest => ⟨x, y, z, b⟩ :: b.dispatches rest
  | command :: rest => (b.next command).dispatches rest

@[simp] theorem after_cons (b : Bindings) (command : Command) (rest : List Command) :
    b.after (command :: rest) = (b.next command).after rest := rfl

theorem after_append (b : Bindings) (xs ys : List Command) :
    b.after (xs ++ ys) = (b.after xs).after ys := List.foldl_append

theorem dispatches_append (b : Bindings) (xs ys : List Command) :
    b.dispatches (xs ++ ys) = b.dispatches xs ++ (b.after xs).dispatches ys := by
  induction xs generalizing b with
  | nil => rfl
  | cons command xs ih => cases command <;> simp [dispatches, next, ih]

end Bindings

/-! ## In a recorded list -/

namespace Recorded

/-- Whether a render pass is open after a command. -/
def placeAfter : Bool → Recorded → Bool
  | _, .beginRenderPass .. => true
  | _, .endRenderPass => false
  | inside, _ => inside

/-- The commands that were recorded outside render passes. -/
def outside : Bool → List Recorded → List Recorded
  | _, [] => []
  | true, command :: rest => outside (placeAfter true command) rest
  | false, command :: rest => command :: outside (placeAfter false command) rest

def pipeline? : Recorded → Option NativePipeline
  | .computePipeline pipeline => some pipeline
  | _ => none

def group? (index : UInt32) : Recorded → Option BindGroup
  | .bindGroup i group => if index = i then some group else none
  | _ => none

/-- The pipeline that was bound last. -/
def lastPipeline (before : List Recorded) : Option NativePipeline :=
  before.reverse.findSome? pipeline?

/-- The group that was bound last to an index outside render passes. -/
def lastGroup (before : List Recorded) (index : UInt32) : Option BindGroup :=
  (outside false before).reverse.findSome? (group? index)

/-- What a dispatch should run with after these commands. -/
def bindings (before : List Recorded) : Bindings := ⟨lastPipeline before, lastGroup before⟩

/-- The dispatches that follow the commands `before`, each with what was bound last. -/
def dispatches (before : List Recorded) : List Recorded → List Dispatched
  | [] => []
  | .dispatch x y z :: rest =>
    ⟨x, y, z, bindings before⟩ :: dispatches (before ++ [.dispatch x y z]) rest
  | command :: rest => dispatches (before ++ [command]) rest

/-- What a command recorded outside render passes is to a compute pass. -/
def inCompute : Recorded → List Command
  | .computePipeline pipeline => [.pipeline pipeline]
  | .bindGroup index group => [.bindGroup index group]
  | .dispatch x y z => [.dispatch x y z]
  | _ => []

/-- All that a list has for compute passes, in a single one. -/
def inOnePass (commands : List Recorded) : List Command :=
  .beginCompute :: ((outside false commands).flatMap inCompute ++ [.endCompute])

theorem placeAfter_of_next? {inside next : Bool} {command : Recorded}
    (allowed : next? inside command = some next) : placeAfter inside command = next := by
  cases inside <;> cases command <;> cases allowed <;> rfl

theorem outside_append (inside : Bool) (xs ys : List Recorded) :
    outside inside (xs ++ ys) = outside inside xs ++ outside (xs.foldl placeAfter inside) ys := by
  induction xs generalizing inside with
  | nil => rfl
  | cons command xs ih => cases inside <;> simp [outside, ih]

theorem lastPipeline_concat (before : List Recorded) (command : Recorded) :
    lastPipeline (before ++ [command]) = command.pipeline?.or (lastPipeline before) := by
  cases h : command.pipeline? <;> simp [lastPipeline, h]

theorem lastGroup_concat (before : List Recorded) (command : Recorded) :
    lastGroup (before ++ [command]) =
      if before.foldl placeAfter false then lastGroup before
      else fun index => (command.group? index).or (lastGroup before index) := by
  funext index
  cases place : before.foldl placeAfter false with
  | true => simp [lastGroup, outside_append, place, outside]
  | false => cases h : command.group? index <;> simp [lastGroup, outside_append, place, outside, h]

/-- Only commands outside render passes change what a dispatch runs with, as they do in a compute
pass. -/
theorem bindings_concat {before : List Recorded} {inside next : Bool} {command : Recorded}
    (place : before.foldl placeAfter false = inside)
    (allowed : next? inside command = some next) :
    bindings (before ++ [command]) =
      if inside then bindings before else (bindings before).after command.inCompute := by
  have groups := lastGroup_concat before command
  rw [place] at groups
  rw [bindings, groups, lastPipeline_concat]
  cases inside with
  | true => cases command <;> cases allowed <;> rfl
  | false =>
    cases command with
    | bindGroup index group =>
      congr 1
      funext i
      show (if i = index then some group else none).or (lastGroup before i) =
        if i = index then some group else lastGroup before i
      split <;> rfl
    | _ => cases allowed <;> rfl

theorem dispatches_append (before xs ys : List Recorded) :
    dispatches before (xs ++ ys) = dispatches before xs ++ dispatches (before ++ xs) ys := by
  induction xs generalizing before with
  | nil => simp [dispatches]
  | cons command xs ih => cases command <;> simp [dispatches, ih]

theorem dispatches_single {inside next : Bool} {command : Recorded}
    (allowed : next? inside command = some next) (before : List Recorded) :
    dispatches before [command] =
      if inside then [] else (bindings before).dispatches command.inCompute := by
  cases inside <;> cases command <;> cases allowed <;> rfl

theorem place_of_ordered {commands : List Recorded} {start inside : Bool}
    (ordered : commands.foldlM next? start = some inside) :
    commands.foldl placeAfter start = inside := by
  induction commands generalizing start with
  | nil => exact Option.some.inj ordered
  | cons command commands ih =>
    obtain ⟨next, allowed, ordered⟩ := Option.bind_eq_some_iff.1 ordered
    rw [List.foldl_cons, placeAfter_of_next? allowed]
    exact ih ordered

theorem ordered_concat {before : List Recorded} {command : Recorded} {start inside : Bool} :
    (before ++ [command]).foldlM next? start = some inside ↔
      ∃ place, before.foldlM next? start = some place ∧ next? place command = some inside := by
  simp [List.foldlM_append, Option.bind_eq_some_iff]

/-- In a single compute pass everything that was bound stays bound. -/
theorem outside_follows {commands : List Recorded} {inside : Bool}
    (ordered : commands.foldlM next? false = some inside) :
    Bindings.after {} ((outside false commands).flatMap inCompute) = bindings commands ∧
      Bindings.dispatches {} ((outside false commands).flatMap inCompute) =
        dispatches [] commands := by
  induction commands using List.reverseRecOn generalizing inside with
  | nil => exact ⟨rfl, rfl⟩
  | append_singleton before command ih =>
    obtain ⟨place, ordered, allowed⟩ := ordered_concat.1 ordered
    obtain ⟨after, seen⟩ := ih ordered
    have concat := bindings_concat (place_of_ordered ordered) allowed
    rw [outside_append, place_of_ordered ordered, List.flatMap_append, dispatches_append, concat,
      List.nil_append, dispatches_single allowed]
    cases place with
    | true =>
      rw [← after, ← seen]
      simp [outside]
    | false =>
      rw [Bindings.after_append, Bindings.dispatches_append, after, seen]
      simp [outside]

/-- The dispatches of a list are those of a single compute pass. -/
theorem dispatches_inOnePass {commands : List Recorded} {inside : Bool}
    (ordered : commands.foldlM next? false = some inside) :
    Bindings.dispatches {} (inOnePass commands) = dispatches [] commands := by
  obtain ⟨-, seen⟩ := outside_follows ordered
  rw [← seen, inOnePass]
  exact (Bindings.dispatches_append _ _ _).trans (List.append_nil _)

end Recorded

/-! ## Replaying -/

namespace Replay

def inForce (r : Replay) : Bindings := Bindings.after {} r.trace.toList

def dispatches (r : Replay) : List Dispatched := Bindings.dispatches {} r.trace.toList

/-- What the next compute pass begins with. -/
def remembered (r : Replay) : Bindings := ⟨r.pipeline, r.groups.get?⟩

@[simp] theorem inForce_emit (r : Replay) (commands : List Command) :
    (r.emit commands).inForce = r.inForce.after commands := by
  simp [inForce, emit, Bindings.after_append]

@[simp] theorem dispatches_emit (r : Replay) (commands : List Command) :
    (r.emit commands).dispatches = r.dispatches ++ r.inForce.dispatches commands := by
  simp [dispatches, inForce, emit, Bindings.dispatches_append]

@[simp] theorem dispatches_close (r : Replay) : r.close.dispatches = r.dispatches := by
  unfold close
  split
  · rfl
  · exact (r.dispatches_emit _).trans (List.append_nil _)
  · exact (r.dispatches_emit _).trans (List.append_nil _)

@[simp] theorem remembered_close (r : Replay) : r.close.remembered = r.remembered := by
  unfold close
  split <;> rfl

/-- Bind commands in ascending order of their indices leave each index with its own group. -/
theorem after_bindGroups (b : Bindings) (entries : List (UInt32 × BindGroup))
    (sorted : entries.Pairwise fun e e' => Ranked.rank e.1 < Ranked.rank e'.1) :
    b.after (entries.map fun e => .bindGroup e.1 e.2) =
      { b with groups := fun i => (SortedMap.find? i entries).or (b.groups i) } := by
  induction entries generalizing b with
  | nil => rfl
  | cons e entries ih =>
    obtain ⟨above, sorted⟩ := List.pairwise_cons.1 sorted
    rw [List.map_cons, Bindings.after_cons, ih _ sorted]
    congr 1
    funext i
    by_cases same : i = e.1
    · subst same
      simp [Bindings.next, Bindings.bindGroup, SortedMap.find?, SortedMap.find?_eq_none_of_lt above]
    · simp [Bindings.next, Bindings.bindGroup, SortedMap.find?, Ranked.rank_eq_iff, same]

theorem after_preamble (r : Replay) : Bindings.after {} r.preamble = r.remembered := by
  have pipeline : Bindings.after {} (r.pipeline.map Command.pipeline).toList =
      { pipeline := r.pipeline } := by
    cases r.pipeline <;> rfl
  rw [preamble, Bindings.after_append, pipeline]
  rw [SortedMap.toList, after_bindGroups _ _ r.groups.sorted, remembered]
  congr 1
  funext i
  exact Option.or_none

theorem dispatches_preamble (r : Replay) (b : Bindings) : b.dispatches r.preamble = [] := by
  have groups (entries : List (UInt32 × BindGroup)) (b : Bindings) :
      b.dispatches (entries.map fun e => .bindGroup e.1 e.2) = [] := by
    induction entries generalizing b with
    | nil => rfl
    | cons e entries ih => exact ih _
  rw [preamble, Bindings.dispatches_append, groups]
  cases r.pipeline <;> rfl

/-- The replay of the commands `before`. -/
structure Follows (r : Replay) (before : List Recorded) : Prop where
  place : before.foldlM Recorded.next? false = some r.pass.isRender
  remembered : r.remembered = Recorded.bindings before
  inForce : r.pass = .compute → r.inForce = r.remembered
  dispatches : r.dispatches = Recorded.dispatches [] before

@[simp] theorem remembered_inCompute (r : Replay) : r.inCompute.remembered = r.remembered := by
  unfold Replay.inCompute
  split
  · rfl
  · exact r.remembered_close

/-- Whatever pass is open, a compute pass begins with what was bound last. -/
theorem Follows.inCompute {r : Replay} {before : List Recorded} (h : r.Follows before) :
    r.inCompute.inForce = r.remembered ∧ r.inCompute.dispatches = r.dispatches := by
  unfold Replay.inCompute
  split
  · rename_i compute
    exact ⟨h.inForce compute, rfl⟩
  · constructor
    · show (r.close.emit _).inForce = _
      rw [inForce_emit, Bindings.after_cons]
      exact r.close.after_preamble.trans r.remembered_close
    · show (r.close.emit _).dispatches = _
      rw [dispatches_emit, dispatches_close]
      exact (congrArg _ (r.close.dispatches_preamble _)).trans (List.append_nil _)

theorem Follows.compute {r r' : Replay} {before : List Recorded} (h : r.Follows before)
    {command : Recorded} {inside : Bool} (outside : r.pass.isRender = false)
    (allowed : Recorded.next? false command = some inside)
    (place : (before ++ [command]).foldlM Recorded.next? false = some r'.pass.isRender)
    (trace : r'.trace = r.inCompute.trace ++ command.inCompute)
    (remembered : r'.remembered = r.remembered.after command.inCompute) :
    r'.Follows (before ++ [command]) := by
  obtain ⟨inForce, seen⟩ := h.inCompute
  have bindings := Recorded.bindings_concat
    ((Recorded.place_of_ordered h.place).trans outside) allowed
  have emitted : r'.inForce = r.remembered.after command.inCompute ∧
      r'.dispatches = r.dispatches ++ r.remembered.dispatches command.inCompute := by
    rw [← inForce, ← seen, ← inForce_emit, ← dispatches_emit]
    simp only [Replay.inForce, Replay.dispatches, trace, emit, and_self]
  refine ⟨place, ?_, fun _ => emitted.1.trans remembered.symm, ?_⟩
  · rw [remembered, h.remembered, bindings]
    rfl
  · rw [emitted.2, h.remembered, h.dispatches, Recorded.dispatches_append,
      Recorded.dispatches_single allowed]
    rfl

/-- Any other command leaves what was bound alone, and no compute pass is open after it. -/
theorem Follows.other {r r' : Replay} {before : List Recorded} (h : r.Follows before)
    {command : Recorded}
    (place : (before ++ [command]).foldlM Recorded.next? false = some r'.pass.isRender)
    (ended : r'.pass ≠ .compute)
    (bindings : Recorded.bindings (before ++ [command]) = Recorded.bindings before)
    (single : Recorded.dispatches before [command] = [])
    (remembered : r'.remembered = r.remembered) (dispatches : r'.dispatches = r.dispatches) :
    r'.Follows (before ++ [command]) where
  place := place
  remembered := remembered.trans (h.remembered.trans bindings.symm)
  inForce compute := absurd compute ended
  dispatches := by
    rw [dispatches, h.dispatches, Recorded.dispatches_append, List.nil_append, single,
      List.append_nil]

theorem Follows.apply_inside {r : Replay} {before : List Recorded} (h : r.Follows before)
    (render : r.pass = .render) {command : Recorded} {inside : Bool}
    (allowed : Recorded.next? true command = some inside)
    (place : (before ++ [command]).foldlM Recorded.next? false =
      some (r.apply command).pass.isRender) : (r.apply command).Follows (before ++ [command]) := by
  have bindings := Recorded.bindings_concat
    ((Recorded.place_of_ordered h.place).trans (congrArg OpenPass.isRender render)) allowed
  have single := Recorded.dispatches_single allowed before
  cases command with
  | renderPipeline | viewport | vertexBuffer | indexBuffer | draw | drawIndexed | bindGroup =>
    -- The commands go to the render pass, which has no dispatches.
    simp only [apply, ifRender, render] at place ⊢
    refine h.other place ?_ bindings single rfl ((r.dispatches_emit _).trans (List.append_nil _))
    simp [emit, render]
  | barrier =>
    have same : r.apply .barrier = r := by simp only [apply, render]
    rw [same] at place ⊢
    exact h.other place (by simp [render]) bindings single rfl rfl
  | endRenderPass =>
    exact h.other place (by simp [apply]) bindings single r.remembered_close r.dispatches_close
  | _ => cases allowed

theorem Follows.apply_outside {r : Replay} {before : List Recorded} (h : r.Follows before)
    (outside : r.pass.isRender = false) {command : Recorded} {inside : Bool}
    (allowed : Recorded.next? false command = some inside)
    (place : (before ++ [command]).foldlM Recorded.next? false =
      some (r.apply command).pass.isRender) : (r.apply command).Follows (before ++ [command]) := by
  have bindings := Recorded.bindings_concat
    ((Recorded.place_of_ordered h.place).trans outside) allowed
  have single := Recorded.dispatches_single allowed before
  cases command with
  | computePipeline pipeline =>
    refine h.compute outside allowed place rfl ?_
    exact congrArg (Bindings.next · (.pipeline pipeline)) r.remembered_inCompute
  | bindGroup index group =>
    have same : r.apply (.bindGroup index group) =
        { r.inCompute.emit [.bindGroup index group] with
          groups := r.groups.insert index group } := by
      cases pass : r.pass with
      | render => simp [pass, OpenPass.isRender] at outside
      | idle | compute => simp only [apply, pass]
    rw [same] at place ⊢
    refine h.compute outside allowed place rfl ?_
    have pipeline := congrArg Bindings.pipeline r.remembered_inCompute
    have groups : (r.groups.insert index group).get? =
        (r.remembered.bindGroup index group).groups := by
      funext i
      simp only [SortedMap.get?_insert, Ranked.rank_eq_iff]
      rfl
    exact congrArg₂ Bindings.mk pipeline groups
  | dispatch x y z => exact h.compute outside allowed place rfl r.remembered_inCompute
  | barrier =>
    have same : r.apply .barrier = r.close := by
      cases pass : r.pass with
      | render => simp [pass, OpenPass.isRender] at outside
      | idle | compute => simp only [apply, close, pass]
    rw [same] at place ⊢
    exact h.other place (by simp) bindings single r.remembered_close r.dispatches_close
  | copy | clear =>
    refine h.other place (by simp [apply, emit]) bindings single r.remembered_close ?_
    exact (dispatches_emit _ _).trans ((List.append_nil _).trans r.dispatches_close)
  | beginRenderPass area colors depth =>
    refine h.other place (by simp [apply]) bindings single r.remembered_close ?_
    exact (dispatches_emit _ _).trans ((List.append_nil _).trans r.dispatches_close)
  | _ => cases allowed

theorem Follows.apply {r : Replay} {before : List Recorded} (h : r.Follows before)
    {command : Recorded} {inside : Bool}
    (allowed : Recorded.next? r.pass.isRender command = some inside) :
    (r.apply command).Follows (before ++ [command]) := by
  obtain ⟨_, _, last⟩ := apply_extends allowed
  have place : (before ++ [command]).foldlM Recorded.next? false =
      some (r.apply command).pass.isRender :=
    Recorded.ordered_concat.2 ⟨_, h.place, last ▸ allowed⟩
  cases at_ : r.pass.isRender with
  | true => exact h.apply_inside (OpenPass.eq_render at_) (at_ ▸ allowed) place
  | false => exact h.apply_outside at_ (at_ ▸ allowed) place

theorem follows {commands : List Recorded} {inside : Bool}
    (ordered : commands.foldlM Recorded.next? false = some inside) :
    (commands.foldl apply {}).Follows commands := by
  induction commands using List.reverseRecOn generalizing inside with
  | nil => exact ⟨rfl, rfl, nofun, rfl⟩
  | append_singleton before command ih =>
    obtain ⟨place, ordered, allowed⟩ := Recorded.ordered_concat.1 ordered
    have h := ih ordered
    have same : place = (before.foldl Replay.apply {}).pass.isRender :=
      Option.some.inj (ordered.symm.trans h.place)
    rw [List.foldl_append]
    exact h.apply (same ▸ allowed)

end Replay

/-- The dispatches of an encoded list run with what was bound last. -/
theorem dispatches_encode {commands : List Recorded} {inside : Bool}
    (ordered : commands.foldlM Recorded.next? false = some inside) :
    Bindings.dispatches {} (encode commands) = Recorded.dispatches [] commands :=
  (Replay.dispatches_close _).trans (Replay.follows ordered).dispatches

/-- A barrier and a copy end the pass that a pipeline and a group were bound in. -/
example (p : NativePipeline) (g : BindGroup) (b : Buffer) :
    (Bindings.dispatches {} (encode [.computePipeline p, .bindGroup 0 g, .barrier,
      .copy b 0 b 4 4, .dispatch 1 1 1])).map
        (fun d => (d.bindings.pipeline, d.bindings.groups 0)) = [(some p, some g)] := rfl

/-! ## Recorded lists -/

/-- What a call may record. -/
def RecordingCall.mayRecord : RecordingCall → Recorded → Bool
  | .bindPipeline _, .computePipeline _ | .bindPipeline _, .renderPipeline _
  | .bindPipeline _, .viewport _ | .bindResources _, .bindGroup ..
  | .bindResources _, .indexBuffer .. | .bindResources _, .vertexBuffer .. | .barrier, .barrier
  | .copy .., .copy .. | .fill .., .clear .. | .fill .., .copy .. | .dispatch .., .dispatch ..
  | .beginPass .., .beginRenderPass .. | .endPass, .endRenderPass | .draw .., .draw ..
  | .drawIndexed .., .drawIndexed .. => true
  | _, _ => false

namespace Recording

variable {α : Type} {allowed : Recorded → Bool}

/-- The list still records, and only such commands were added to it. -/
structure Adds (allowed : Recorded → Bool) (r t : Recording) : Prop where
  finalized : t.list.finalized = r.list.finalized
  commands : ∃ added, t.list.commands.toList = r.list.commands.toList ++ added ∧
    ∀ command ∈ added, allowed command = true

instance : Evolution (Adds allowed) where
  refl _ := ⟨rfl, [], (List.append_nil _).symm, List.forall_mem_nil _⟩
  trans first second := by
    obtain ⟨added, commands, each⟩ := first.commands
    obtain ⟨added', commands', each'⟩ := second.commands
    refine ⟨second.finalized.trans first.finalized, added ++ added', ?_, ?_⟩
    · rw [commands', commands, List.append_assoc]
    · exact fun command member => (List.mem_append.1 member).elim (each command) (each' command)

theorem adds_onDevice (a : Action (Live Gpu) α) : (onDevice a).Evolves (Adds allowed) :=
  evolves_onDevice (.any a) fun _ _ _ =>
    ⟨rfl, [], (List.append_nil _).symm, List.forall_mem_nil _⟩

theorem adds_push {command : Recorded} (allows : allowed command = true) :
    (push command).Evolves (Adds allowed) :=
  fun _ => ⟨rfl, [command], Array.toList_push .., List.forall_mem_singleton.2 allows⟩

theorem adds_updateList {f : CommandList → CommandList}
    (finalized : ∀ l, (f l).finalized = l.finalized)
    (commands : ∀ l, (f l).commands = l.commands) :
    (updateList f).Evolves (Adds allowed) :=
  evolves_updateList fun r => ⟨finalized r.list, [], by rw [commands, List.append_nil],
    List.forall_mem_nil _⟩

theorem adds_checkRecording : checkRecording.Evolves (Adds allowed) := evolves_checkRecording

theorem adds_checkOutsidePass (what : String) : (checkOutsidePass what).Evolves (Adds allowed) :=
  evolves_checkOutsidePass what

theorem adds_current : current.Evolves (Adds allowed) := evolves_current

end Recording

/-- A call adds only what it may record, also when it fails on the way. -/
theorem RecordingCall.adds (call : RecordingCall) :
    call.run.Evolves (Recording.Adds call.mayRecord) := by
  open Recording in
  cases call with
  | bindPipeline pipeline =>
    refine adds_checkRecording.bind fun _ => ?_
    cases pipeline.kind with
    | compute native =>
      refine (adds_checkOutsidePass _).bind fun _ => (adds_push rfl).bind fun _ => ?_
      exact adds_updateList (fun _ => rfl) fun _ => rfl
    | raster template =>
      refine adds_current.bind fun l => (Evolves.orRefuse _ _).bind fun target => ?_
      refine (adds_onDevice _).bind fun info => (adds_onDevice _).bind fun native => ?_
      refine (adds_push rfl).bind fun _ => (adds_push rfl).bind fun _ => ?_
      exact adds_updateList (fun _ => rfl) fun _ => rfl
  | bindResources binder =>
    refine adds_checkRecording.bind fun _ => adds_current.bind fun l => ?_
    refine (Evolves.orRefuse _ _).bind fun bound => (Evolves.forM fun slots => ?_).bind fun _ => ?_
    · refine (adds_onDevice _).bind fun set => .bind ?_ fun _ => ?_
      · exact adds_updateList (fun _ => rfl) fun _ => rfl
      · exact (adds_onDevice _).bind fun group => adds_push rfl
    · refine (evolves_bindGeometry binder (fun _ => adds_onDevice _) ?_ ?_).ite (.pure _)
      · exact fun _ _ _ => adds_push rfl
      · exact fun _ _ _ => adds_push rfl
  | barrier => exact adds_checkRecording.bind fun _ => adds_push rfl
  | copy dst src size =>
    refine adds_checkRecording.bind fun _ => (adds_checkOutsidePass _).bind fun _ => ?_
    refine (adds_onDevice _).bind fun srcRange => (adds_onDevice _).bind fun dstRange => ?_
    exact (Evolves.require _ _).bind fun _ => adds_push rfl
  | fill pointer size word =>
    refine adds_checkRecording.bind fun _ => (adds_checkOutsidePass _).bind fun _ => ?_
    refine (adds_onDevice _).bind fun range => (Evolves.require _ _).bind fun _ => ?_
    refine .ite (.pure _) (.ite (adds_push rfl) ?_)
    exact (adds_onDevice _).bind fun pattern => adds_push rfl
  | dispatch x y z =>
    exact adds_checkRecording.bind fun _ => adds_current.bind fun _ =>
      (Evolves.assert _ _).bind fun _ => adds_push rfl
  | beginPass area colors depth =>
    refine adds_checkRecording.bind fun _ => (adds_checkOutsidePass _).bind fun _ => ?_
    refine (adds_onDevice _).bind fun c => (adds_onDevice _).bind fun d => ?_
    refine (Evolves.orRefuse _ _).bind fun extent => (adds_onDevice _).bind fun pass => ?_
    refine (adds_onDevice _).bind fun framebuffer => (adds_onDevice _).bind fun fb => ?_
    refine (adds_onDevice _).bind fun info => (Evolves.require _ _).bind fun _ => ?_
    exact (adds_push rfl).bind fun _ => adds_updateList (fun _ => rfl) fun _ => rfl
  | endPass =>
    refine adds_checkRecording.bind fun _ => adds_current.bind fun _ => ?_
    refine (Evolves.assert _ _).bind fun _ => .bind ?_ fun _ => adds_push rfl
    exact adds_updateList (fun _ => rfl) fun _ => rfl
  | draw count first =>
    refine adds_checkRecording.bind fun _ => adds_current.bind fun _ => ?_
    refine (Evolves.assert _ _).bind fun _ => ?_
    split
    · exact adds_push rfl
    · exact .pure _
  | drawIndexed count baseVertex first =>
    refine adds_checkRecording.bind fun _ => adds_current.bind fun _ => ?_
    refine (Evolves.assert _ _).bind fun _ => .ite ?_ (.pure _)
    split
    · exact adds_push rfl
    · exact .pure _

namespace CommandList

/-- A list after one recording call, with the device as the call found it. -/
def record (l : CommandList) (made : Live Gpu × RecordingCall) : CommandList :=
  (made.2.run.outcome ⟨made.1, l⟩).2.list

/-- A new list after recording calls, whatever became of the device between them. -/
def recorded (buffer : CommandBufferId) (calls : List (Live Gpu × RecordingCall)) : CommandList :=
  calls.foldl record { buffer }

/-- The list records, and its render passes are in order. -/
def Open (l : CommandList) : Prop := l.finalized = false ∧ l.InOrder

theorem Open.record {l : CommandList} (h : l.Open) (made : Live Gpu × RecordingCall) :
    (l.record made).Open := by
  obtain ⟨recording, inOrder⟩ := h
  constructor
  · exact (made.2.adds.outcome ⟨made.1, l⟩).finalized.trans recording
  · exact wp.outcome (P := fun o : Except Fault Unit × Recording => o.2.list.InOrder)
      (made.2.keepsOrder ⟨made.1, l⟩ inOrder)

theorem open_recorded (buffer : CommandBufferId) (calls : List (Live Gpu × RecordingCall)) :
    (recorded buffer calls).Open := by
  have fresh : CommandList.Open { buffer } := ⟨rfl, CommandList.At.inOrder ⟨rfl, rfl, nofun⟩⟩
  unfold recorded
  generalize ({ buffer } : CommandList) = l at fresh
  induction calls generalizing l with
  | nil => exact fresh
  | cons made calls ih => exact ih _ (fresh.record made)

theorem Open.ordered {l : CommandList} (h : l.Open) :
    l.closed.foldlM Recorded.next? false = some false := by
  obtain ⟨inside, inOrder⟩ := h.2 h.1
  exact inOrder.closed

theorem Open.finalize {l : CommandList} (h : l.Open) (live : Live Gpu) :
    (Recording.finalize.outcome ⟨live, l⟩).1 = .ok (some (encode l.closed)) := by
  refine wp.outcome (P := fun o => o.1 = .ok (some (encode l.closed))) ?_
  rw [Recording.wp_finalize]
  exact ⟨fun finalized => absurd finalized (Bool.eq_false_iff.1 h.1), fun _ => rfl⟩

/-- However recording calls split a list into passes, each dispatch of its native commands runs with
the pipeline and the groups that were bound last, as if all ran in one compute pass. -/
theorem dispatches_transparent (buffer : CommandBufferId) (calls : List (Live Gpu × RecordingCall))
    (live : Live Gpu) :
    ∃ trace,
      (Recording.finalize.outcome ⟨live, recorded buffer calls⟩).1 = .ok (some trace) ∧
        Bindings.dispatches {} trace = Recorded.dispatches [] (recorded buffer calls).closed ∧
        Bindings.dispatches {} trace =
          Bindings.dispatches {} (Recorded.inOnePass (recorded buffer calls).closed) := by
  have h := open_recorded buffer calls
  have seen := dispatches_encode h.ordered
  exact ⟨_, h.finalize live, seen, seen.trans (Recorded.dispatches_inOnePass h.ordered).symm⟩

end CommandList

end DeviceLayer
