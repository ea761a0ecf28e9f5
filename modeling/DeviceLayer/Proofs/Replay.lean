import DeviceLayer.CommandList.Recorded

/-!
# Replay drops nothing

A recorded list is replayed by a machine of its own, which knows only the pass it has open and skips
what that pass does not allow. Lists whose render passes are in order lose nothing by it.

* `Recorded.next?` — where a command may be recorded, and whether a render pass is open after it.
* `OpenPass.next?`, `read` — where a native command may stand, and what a whole trace does.
* `Recorded.issued`, `Recorded.separates` — what a recorded command is replayed for.
* `Replays` — a trace does what was recorded, in passes that are in order.
* `Replay.Extends` — a replay goes on from another; every recorded command extends the replay.
* `encode_replays` — a list whose render passes are in order and closed is encoded to such a trace.
-/

namespace DeviceLayer

/-! ## Recorded lists -/

namespace Recorded

/-- Whether a render pass is open after a command, if the command may be recorded where it is. -/
def next? : Bool → Recorded → Option Bool
  | inside, .bindGroup .. | inside, .barrier => some inside
  | false, .computePipeline _ | false, .dispatch .. | false, .copy .. | false, .clear .. =>
    some false
  | false, .beginRenderPass .. => some true
  | true, .renderPipeline _ | true, .viewport _ | true, .vertexBuffer .. | true, .indexBuffer ..
  | true, .draw .. | true, .drawIndexed .. => some true
  | true, .endRenderPass => some false
  | _, _ => none

/-- What a command is recorded for. Compute pipelines and bind groups only prepare for others, and
barriers only separate them. -/
def issued : Recorded → List Command
  | .renderPipeline pipeline => [.pipeline pipeline]
  | .viewport area => [.viewport area.viewport, .scissor area]
  | .vertexBuffer slot buffer offset => [.vertexBuffer slot buffer offset]
  | .indexBuffer buffer offset format => [.indexBuffer buffer offset format]
  | .dispatch x y z => [.dispatch x y z]
  | .copy src srcOffset dst dstOffset size => [.copy src srcOffset dst dstOffset size]
  | .clear buffer offset size => [.clear buffer offset size]
  | .beginRenderPass area colors depth =>
    [.beginRender colors depth, .viewport area.viewport, .scissor area]
  | .endRenderPass => [.endRender]
  | .draw first past => [.draw first past]
  | .drawIndexed first past baseVertex => [.drawIndexed first past baseVertex]
  | .computePipeline _ | .bindGroup .. | .barrier => []

/-- The commands between which no compute pass goes on. -/
def separates : Recorded → Bool
  | .barrier | .copy .. | .clear .. | .beginRenderPass .. => true
  | _ => false

end Recorded

/-! ## Native traces -/

namespace OpenPass

def isRender : OpenPass → Bool
  | .render => true
  | _ => false

/-- The pass that is open after a native command, if the command may stand where it is. -/
def next? : OpenPass → Command → Option OpenPass
  | .idle, .beginCompute => some .compute
  | .compute, .endCompute => some .idle
  | .idle, .beginRender .. => some .render
  | .render, .endRender => some .idle
  | .idle, .copy .. | .idle, .clear .. => some .idle
  | .compute, .pipeline _ | .compute, .bindGroup .. | .compute, .dispatch .. => some .compute
  | .render, .pipeline _ | .render, .bindGroup .. | .render, .viewport _ | .render, .scissor _
  | .render, .vertexBuffer .. | .render, .indexBuffer .. | .render, .draw ..
  | .render, .drawIndexed .. => some .render
  | _, _ => none

/-- Whether a command does what was asked for; compute passes with their pipelines, and all bind
groups, are only there to make that possible. -/
def counts : OpenPass → Command → Bool
  | _, .beginCompute | _, .endCompute | _, .bindGroup .. => false
  | pass, .pipeline _ => pass.isRender
  | _, _ => true

theorem eq_render {pass : OpenPass} (render : pass.isRender = true) : pass = .render := by
  cases pass with
  | render => rfl
  | idle | compute => cases render

end OpenPass

/-- Reads a trace from an open pass on: the pass that is open at its end, and the commands that do
what was asked for. There is none if some command may not stand where it does. -/
def read : OpenPass → List Command → Option (OpenPass × List Command)
  | pass, [] => some (pass, [])
  | pass, command :: rest =>
    match pass.next? command with
    | none => none
    | some next =>
      match read next rest with
      | none => none
      | some (last, asked) =>
        some (last, if pass.counts command then command :: asked else asked)

theorem read_append {pass mid last : OpenPass} {xs ys asked asked' : List Command}
    (first : read pass xs = some (mid, asked)) (second : read mid ys = some (last, asked')) :
    read pass (xs ++ ys) = some (last, asked ++ asked') := by
  induction xs generalizing pass asked with
  | nil =>
    cases first
    exact second
  | cons command xs ih =>
    rw [List.cons_append]
    unfold read at first ⊢
    split at first
    · cases first
    · split at first
      · cases first
      · rename_i next _ _ _ rest
        cases first
        simp only [ih rest]
        split <;> rfl

/-- Only the end of a compute pass leads out of it. -/
theorem endCompute_mem_of_read {last : OpenPass} {xs asked : List Command}
    (reads : read .compute xs = some (last, asked)) (left : last ≠ .compute) :
    .endCompute ∈ xs := by
  induction xs generalizing asked with
  | nil =>
    cases reads
    exact absurd rfl left
  | cons command xs ih =>
    unfold read at reads
    cases command with
    | endCompute => exact List.mem_cons_self
    | pipeline | bindGroup | dispatch =>
      simp only [OpenPass.next?] at reads
      split at reads
      · cases reads
      · rename_i rest
        cases reads
        exact List.mem_cons_of_mem _ (ih rest)
    | _ => cases reads

/-- The trace does what was recorded and nothing else, in the order it was recorded, in passes that
are in order. Two dispatches share a compute pass exactly if nothing recorded between them separates
them. -/
structure Replays (recorded : List Recorded) (trace : List Command) : Prop where
  reads : read .idle trace = some (.idle, recorded.flatMap Recorded.issued)
  shares : ∀ xs x y z ys x' y' z' zs,
    recorded = xs ++ .dispatch x y z :: (ys ++ .dispatch x' y' z' :: zs) →
      ∃ before between after,
        trace = before ++ .dispatch x y z :: (between ++ .dispatch x' y' z' :: after) ∧
        read .idle before = some (.compute, xs.flatMap Recorded.issued) ∧
        read .compute between = some (.compute, ys.flatMap Recorded.issued) ∧
        (.endCompute ∈ between ↔ ∃ command ∈ ys, command.separates = true)

/-! ## Replaying -/

namespace Replay

open OpenPass (eq_render)

/-- A replay went on from another and emitted commands that do what was asked for. -/
structure Extends (r r' : Replay) (emitted asked : List Command) : Prop where
  trace : r'.trace.toList = r.trace.toList ++ emitted
  reads : read r.pass emitted = some (r'.pass, asked)

theorem Extends.refl (r : Replay) : r.Extends r [] [] := ⟨(List.append_nil _).symm, rfl⟩

theorem Extends.trans {r r' r'' : Replay} {emitted emitted' asked asked' : List Command}
    (first : r.Extends r' emitted asked) (second : r'.Extends r'' emitted' asked') :
    r.Extends r'' (emitted ++ emitted') (asked ++ asked') where
  trace := by rw [second.trace, first.trace, List.append_assoc]
  reads := read_append first.reads second.reads

theorem extends_emit (r : Replay) {commands asked : List Command}
    (reads : read r.pass commands = some (r.pass, asked)) :
    r.Extends (r.emit commands) commands asked :=
  ⟨Array.toList_appendList .., reads⟩

@[simp] theorem close_pass (r : Replay) : r.close.pass = .idle := by
  unfold close
  split
  · assumption
  · rfl
  · rfl

theorem close_extends (r : Replay) :
    ∃ emitted, r.Extends r.close emitted (if r.pass.isRender then [.endRender] else []) := by
  unfold close
  split
  · rename_i idle
    exact ⟨[], by rw [idle]; exact Extends.refl r⟩
  · rename_i compute
    exact ⟨[.endCompute], Array.toList_appendList .., by rw [compute]; rfl⟩
  · rename_i render
    exact ⟨[.endRender], Array.toList_appendList .., by rw [render]; rfl⟩

@[simp] theorem inCompute_pass (r : Replay) : r.inCompute.pass = .compute := by
  unfold inCompute
  split
  · assumption
  · rfl

/-- What a compute pass begins with is not asked for by a command of its own. -/
theorem read_preamble (r : Replay) : read .compute r.preamble = some (.compute, []) := by
  have groups (entries : List (UInt32 × BindGroup)) :
      read .compute (entries.map fun e => .bindGroup e.1 e.2) = some (.compute, []) := by
    induction entries with
    | nil => rfl
    | cons e entries ih =>
      rw [List.map_cons]
      unfold read
      simp only [OpenPass.next?, ih]
      rfl
  have pipeline : read .compute (r.pipeline.map Command.pipeline).toList = some (.compute, []) := by
    cases r.pipeline <;> rfl
  exact read_append pipeline (groups _)

/-- Outside render passes a compute pass can be made the open one; if it is open already, nothing
is emitted for that. -/
theorem inCompute_extends {r : Replay} (outside : r.pass.isRender = false) :
    ∃ emitted, r.Extends r.inCompute emitted [] ∧ (r.pass = .compute → emitted = []) := by
  unfold inCompute
  split
  · rename_i compute
    exact ⟨[], Extends.refl r, fun _ => rfl⟩
  · rename_i other
    obtain ⟨closing, closed⟩ := r.close_extends
    rw [outside] at closed
    have opened : r.close.Extends { r.close.emit (.beginCompute :: r.close.preamble) with
        pass := .compute } (.beginCompute :: r.close.preamble) [] := by
      refine ⟨Array.toList_appendList .., ?_⟩
      unfold read
      simp only [close_pass, OpenPass.next?, read_preamble]
      rfl
    exact ⟨_, closed.trans opened, fun compute => absurd compute other⟩

theorem compute_extends {r r' : Replay} (outside : r.pass.isRender = false)
    (commands : List Command) {asked : List Command}
    (reads : read .compute commands = some (.compute, asked)) (pass : r'.pass = .compute)
    (trace : r'.trace = r.inCompute.trace ++ commands) :
    ∃ emitted, r.Extends r' emitted asked ∧ r'.pass.isRender = false := by
  obtain ⟨opening, opened, -⟩ := inCompute_extends outside
  have emits : r.inCompute.Extends r' commands asked :=
    ⟨trace ▸ Array.toList_appendList .., by rw [inCompute_pass, pass, reads]⟩
  exact ⟨_, opened.trans emits, congrArg OpenPass.isRender pass⟩

theorem ifRender_extends {r : Replay} (inside : r.pass.isRender = true)
    {commands asked : List Command} (reads : read .render commands = some (.render, asked)) :
    ∃ emitted, r.Extends (r.ifRender commands) emitted asked ∧
      (r.ifRender commands).pass.isRender = true := by
  unfold ifRender
  split
  · rename_i render
    exact ⟨commands, r.extends_emit (render.symm ▸ reads), inside⟩
  · rename_i other
    exact absurd (eq_render inside) other

/-- Commands of the encoder itself are emitted after the open pass was closed. -/
theorem outside_extends {r r' : Replay} (outside : r.pass.isRender = false)
    (commands : List Command) {last : OpenPass} {asked : List Command}
    (reads : read .idle commands = some (last, asked)) (pass : r'.pass = last)
    (trace : r'.trace = r.close.trace ++ commands) :
    ∃ emitted, r.Extends r' emitted asked ∧ r'.pass.isRender = last.isRender := by
  obtain ⟨closing, closed⟩ := r.close_extends
  rw [outside] at closed
  have emits : r.close.Extends r' commands asked :=
    ⟨trace ▸ Array.toList_appendList .., by rw [close_pass, pass, reads]⟩
  exact ⟨_, closed.trans emits, congrArg OpenPass.isRender pass⟩

theorem apply_inside {r : Replay} (inside : r.pass.isRender = true) {command : Recorded}
    {next : Bool} (allowed : Recorded.next? true command = some next) :
    ∃ emitted, r.Extends (r.apply command) emitted command.issued ∧
      (r.apply command).pass.isRender = next := by
  have render := eq_render inside
  cases command with
  | renderPipeline | viewport | vertexBuffer | indexBuffer | draw | drawIndexed =>
    cases allowed
    exact ifRender_extends inside rfl
  | bindGroup index group =>
    cases allowed
    simp only [apply, render]
    exact ⟨_, r.extends_emit (render.symm ▸ rfl), inside⟩
  | barrier =>
    cases allowed
    simp only [apply, render]
    exact ⟨[], Extends.refl r, rfl⟩
  | endRenderPass =>
    cases allowed
    obtain ⟨closing, closed⟩ := r.close_extends
    rw [inside] at closed
    exact ⟨closing, closed, congrArg OpenPass.isRender r.close_pass⟩
  | _ => cases allowed

theorem apply_outside {r : Replay} (outside : r.pass.isRender = false) {command : Recorded}
    {next : Bool} (allowed : Recorded.next? false command = some next) :
    ∃ emitted, r.Extends (r.apply command) emitted command.issued ∧
      (r.apply command).pass.isRender = next := by
  cases command with
  | computePipeline pipeline =>
    cases allowed
    exact compute_extends outside [.pipeline pipeline] rfl r.inCompute_pass rfl
  | bindGroup index group =>
    cases allowed
    simp only [apply]
    split
    · rename_i render
      rw [render] at outside
      cases outside
    · exact compute_extends outside [.bindGroup index group] rfl r.inCompute_pass rfl
  | dispatch x y z =>
    cases allowed
    exact compute_extends outside [.dispatch x y z] rfl r.inCompute_pass rfl
  | barrier =>
    cases allowed
    obtain ⟨closing, closed⟩ := r.close_extends
    rw [outside] at closed
    simp only [apply]
    split
    · exact ⟨closing, closed, congrArg OpenPass.isRender r.close_pass⟩
    · exact ⟨[], Extends.refl r, outside⟩
  | copy src srcOffset dst dstOffset size =>
    cases allowed
    exact outside_extends outside [.copy src srcOffset dst dstOffset size] rfl r.close_pass rfl
  | clear buffer offset size =>
    cases allowed
    exact outside_extends outside [.clear buffer offset size] rfl r.close_pass rfl
  | beginRenderPass area colors depth =>
    cases allowed
    exact outside_extends outside (.beginRender colors depth :: areaCommands area) rfl rfl rfl
  | _ => cases allowed

/-- Every command that may be recorded where it is gets replayed for what it was recorded for. -/
theorem apply_extends {r : Replay} {command : Recorded} {inside : Bool}
    (allowed : Recorded.next? r.pass.isRender command = some inside) :
    ∃ emitted, r.Extends (r.apply command) emitted command.issued ∧
      (r.apply command).pass.isRender = inside := by
  cases place : r.pass.isRender with
  | true => exact apply_inside place (place ▸ allowed)
  | false => exact apply_outside place (place ▸ allowed)

theorem foldl_extends {commands : List Recorded} {r : Replay} {inside : Bool}
    (allowed : commands.foldlM Recorded.next? r.pass.isRender = some inside) :
    ∃ emitted, r.Extends (commands.foldl apply r) emitted (commands.flatMap Recorded.issued) ∧
      (commands.foldl apply r).pass.isRender = inside := by
  induction commands generalizing r with
  | nil =>
    cases allowed
    exact ⟨[], Extends.refl r, rfl⟩
  | cons command commands ih =>
    rw [List.foldlM_cons] at allowed
    obtain ⟨between, first, rest⟩ := Option.bind_eq_some_iff.1 allowed
    obtain ⟨emitted, applied, place⟩ := apply_extends first
    obtain ⟨emitted', others, last⟩ := ih (place.symm ▸ rest)
    exact ⟨_, applied.trans others, last⟩

/-! ## Sharing a compute pass -/

/-- Commands that leave the compute pass open are emitted alone. -/
theorem open_extends {r r' : Replay} (compute : r.pass = .compute) (commands : List Command)
    {asked : List Command} (reads : read .compute commands = some (.compute, asked))
    (pass : r'.pass = .compute) (trace : r'.trace = r.inCompute.trace ++ commands)
    (stays : .endCompute ∉ commands) :
    r'.pass = .compute ∧ ∃ emitted, r.Extends r' emitted asked ∧ .endCompute ∉ emitted := by
  have same : r.inCompute = r := by
    unfold inCompute
    rw [compute]
  rw [same] at trace
  refine ⟨pass, commands, ⟨trace ▸ Array.toList_appendList .., ?_⟩, stays⟩
  rw [compute, pass, reads]

/-- In a compute pass, a command that does not separate stays in the pass. -/
theorem apply_stays {r : Replay} (compute : r.pass = .compute) {command : Recorded} {inside : Bool}
    (allowed : Recorded.next? false command = some inside) (stays : command.separates = false) :
    inside = false ∧ (r.apply command).pass = .compute ∧
      ∃ emitted, r.Extends (r.apply command) emitted command.issued ∧ .endCompute ∉ emitted := by
  cases command with
  | computePipeline pipeline =>
    cases allowed
    exact ⟨rfl, open_extends compute [.pipeline pipeline] rfl r.inCompute_pass rfl (by simp)⟩
  | bindGroup index group =>
    cases allowed
    refine ⟨rfl, ?_⟩
    simp only [apply]
    split
    · rename_i render
      rw [compute] at render
      cases render
    · exact open_extends compute [.bindGroup index group] rfl r.inCompute_pass rfl (by simp)
  | dispatch x y z =>
    cases allowed
    exact ⟨rfl, open_extends compute [.dispatch x y z] rfl r.inCompute_pass rfl (by simp)⟩
  | barrier | copy | clear | beginRenderPass => cases stays
  | _ => cases allowed

theorem apply_leaves {r : Replay} (compute : r.pass = .compute) {command : Recorded}
    (separates : command.separates = true) : (r.apply command).pass ≠ .compute := by
  cases command with
  | barrier =>
    simp only [apply, compute, close_pass]
    exact nofun
  | copy | clear =>
    simp only [apply, emit, close_pass]
    exact nofun
  | beginRenderPass => exact nofun
  | _ => cases separates

/-- Commands that follow in a compute pass end it exactly if one of them separates. -/
theorem foldl_shares {commands : List Recorded} {r : Replay} (compute : r.pass = .compute)
    {inside : Bool} (allowed : commands.foldlM Recorded.next? false = some inside) :
    ∃ emitted, r.Extends (commands.foldl apply r) emitted (commands.flatMap Recorded.issued) ∧
      (commands.foldl apply r).pass.isRender = inside ∧
      (.endCompute ∈ emitted ↔ ∃ command ∈ commands, command.separates = true) := by
  have outside : r.pass.isRender = false := congrArg OpenPass.isRender compute
  induction commands generalizing r with
  | nil =>
    cases allowed
    exact ⟨[], Extends.refl r, outside, by simp⟩
  | cons command commands ih =>
    rw [List.foldlM_cons] at allowed
    obtain ⟨between, first, rest⟩ := Option.bind_eq_some_iff.1 allowed
    cases separates : command.separates with
    | false =>
      -- The pass is still open, so whether it ends is up to the rest.
      obtain ⟨rfl, still, emitted, applied, stays⟩ := apply_stays compute first separates
      obtain ⟨emitted', others, last, ends⟩ := ih still rest (congrArg OpenPass.isRender still)
      refine ⟨_, applied.trans others, last, ?_⟩
      rw [List.mem_append, or_iff_right stays, ends]
      simp [separates]
    | true =>
      -- The pass ends with this command, whatever is recorded after it.
      obtain ⟨emitted, applied, place⟩ := apply_extends (outside.symm ▸ first)
      obtain ⟨emitted', others, last⟩ := foldl_extends (place.symm ▸ rest)
      refine ⟨_, applied.trans others, last, fun _ => ?_, fun _ => List.mem_append_left _ ?_⟩
      · exact ⟨command, List.mem_cons_self, separates⟩
      · exact endCompute_mem_of_read (compute ▸ applied.reads) (apply_leaves compute separates)

end Replay

/-! ## Encoding -/

/-- A list whose render passes are in order and closed is encoded to a trace that does what was
recorded. -/
theorem encode_reads {recorded : List Recorded}
    (ordered : recorded.foldlM Recorded.next? false = some false) :
    read .idle (encode recorded) = some (.idle, recorded.flatMap Recorded.issued) := by
  obtain ⟨emitted, replayed, outside⟩ := Replay.foldl_extends (r := {}) ordered
  obtain ⟨closing, closed⟩ := Replay.close_extends (recorded.foldl Replay.apply {})
  rw [outside] at closed
  have whole := replayed.trans closed
  have trace : encode recorded = emitted ++ closing := whole.trace
  rw [trace, whole.reads, Replay.close_pass]
  simp

/-- A dispatch is emitted after what makes a compute pass the open one. -/
theorem Replay.dispatch_extends {r : Replay} (outside : r.pass.isRender = false) (x y z : UInt32) :
    ∃ opening, r.Extends r.inCompute opening [] ∧ (r.pass = .compute → opening = []) ∧
      r.inCompute.Extends (r.apply (.dispatch x y z)) [.dispatch x y z] [.dispatch x y z] := by
  obtain ⟨opening, opened, none⟩ := inCompute_extends outside
  exact ⟨opening, opened, none, r.inCompute.extends_emit (r.inCompute_pass.symm ▸ rfl)⟩

/-- Two dispatches are in one compute pass exactly if nothing that separates was recorded between
them. -/
theorem encode_shares {xs ys zs : List Recorded} {x y z x' y' z' : UInt32}
    (ordered : (xs ++ .dispatch x y z :: (ys ++ .dispatch x' y' z' :: zs)).foldlM
      Recorded.next? false = some false) :
    ∃ before between after,
      encode (xs ++ .dispatch x y z :: (ys ++ .dispatch x' y' z' :: zs)) =
        before ++ .dispatch x y z :: (between ++ .dispatch x' y' z' :: after) ∧
      read .idle before = some (.compute, xs.flatMap Recorded.issued) ∧
      read .compute between = some (.compute, ys.flatMap Recorded.issued) ∧
      (.endCompute ∈ between ↔ ∃ command ∈ ys, command.separates = true) := by
  -- A dispatch was recorded outside of render passes and leaves the list there.
  have dispatches {place next : Bool} {a b c : UInt32}
      (allowed : Recorded.next? place (.dispatch a b c) = some next) :
      place = false ∧ next = false := by
    cases place <;> cases allowed
    exact ⟨rfl, rfl⟩
  simp only [List.foldlM_append, List.foldlM_cons, Option.bind_eq_bind,
    Option.bind_eq_some_iff] at ordered
  obtain ⟨_, orderedXs, _, first, _, orderedYs, _, second, orderedZs⟩ := ordered
  obtain ⟨rfl, rfl⟩ := dispatches first
  obtain ⟨rfl, rfl⟩ := dispatches second
  -- The replay before the first dispatch, after it, before the second, after it, and at the end.
  unfold encode
  simp only [List.foldl_append, List.foldl_cons]
  obtain ⟨head, toFirst, atFirst⟩ := Replay.foldl_extends (r := {}) orderedXs
  generalize xs.foldl Replay.apply {} = r₁ at toFirst atFirst ⊢
  obtain ⟨opening, opened, -, issued⟩ := Replay.dispatch_extends atFirst x y z
  have inPass : (r₁.apply (.dispatch x y z)).pass = .compute := r₁.inCompute_pass
  generalize r₁.apply (.dispatch x y z) = r₂ at issued inPass ⊢
  obtain ⟨mid, toSecond, atSecond, ends⟩ := Replay.foldl_shares inPass orderedYs
  generalize ys.foldl Replay.apply r₂ = r₃ at toSecond atSecond ⊢
  obtain ⟨opening', opened', nothing, issued'⟩ := Replay.dispatch_extends atSecond x' y' z'
  have outside : (r₃.apply (.dispatch x' y' z')).pass.isRender = false :=
    congrArg OpenPass.isRender r₃.inCompute_pass
  generalize r₃.apply (.dispatch x' y' z') = r₄ at issued' outside ⊢
  obtain ⟨rest, toEnd, -⟩ := Replay.foldl_extends (outside.symm ▸ orderedZs)
  generalize zs.foldl Replay.apply r₄ = r₅ at toEnd ⊢
  obtain ⟨closing, closed⟩ := r₅.close_extends
  have before := toFirst.trans opened
  have between := toSecond.trans opened'
  refine ⟨head ++ opening, mid ++ opening', rest ++ closing, ?_, ?_, ?_, ?_⟩
  · have whole := before.trans (issued.trans (between.trans (issued'.trans (toEnd.trans closed))))
    rw [whole.trace]
    simp
  · rw [before.reads, Replay.inCompute_pass, List.append_nil]
  · rw [← inPass, between.reads, Replay.inCompute_pass, List.append_nil, inPass]
  · rw [List.mem_append, ← ends]
    refine or_iff_left_of_imp fun closes => ?_
    -- A pass was opened for the second dispatch, so the first one's was left before.
    refine endCompute_mem_of_read (inPass ▸ toSecond.reads) fun still => ?_
    rw [nothing still] at closes
    cases closes

theorem encode_replays {recorded : List Recorded}
    (ordered : recorded.foldlM Recorded.next? false = some false) :
    Replays recorded (encode recorded) where
  reads := encode_reads ordered
  shares := by
    rintro xs x y z ys x' y' z' zs rfl
    exact encode_shares ordered

end DeviceLayer
