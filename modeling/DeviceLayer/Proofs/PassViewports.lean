import DeviceLayer.Proofs.Failures

/-!
# What is recorded in a render pass

From a call that begins a render pass to the call that ends it a list has one render target, and
draws onto the area of that target only: whatever is called in between, on whatever device and
however it ends, the only viewport that is recorded is that area.

* `Recording.StaysIn` — a list that is in a render pass stays in it.
* `RecordingCall.staysIn` — every call does that, but for the one that ends the pass.
* `CommandList.drawsIn_of_inside` — the viewports of a pass.
-/

namespace DeviceLayer

open DeviceLayer.Action

namespace Recording

/-- The command does not end a render pass, and is no viewport but that of an area. -/
def Keeps (area : RenderArea) (command : Recorded) : Prop :=
  command ≠ .endRenderPass ∧ ∀ other, command = .viewport other → other = area

/-- A list that is in a render pass stays in it, and so does what it records. -/
def StaysIn (target : RenderTarget) (r t : Recording) : Prop :=
  r.list.target = some target → t.list.target = some target ∧
    ∃ added, t.list.commands.toList = r.list.commands.toList ++ added ∧
      ∀ command ∈ added, Keeps target.area command

variable {α : Type} {target : RenderTarget}

instance : Evolution (StaysIn target) where
  refl _ inside := ⟨inside, [], (List.append_nil _).symm, List.forall_mem_nil _⟩
  trans first second inside := by
    obtain ⟨inside, added, commands, each⟩ := first inside
    obtain ⟨inside, added', commands', each'⟩ := second inside
    refine ⟨inside, added ++ added', ?_, List.forall_mem_append.2 ⟨each, each'⟩⟩
    rw [commands', commands, List.append_assoc]

theorem staysIn_onDevice (a : Action (Live Gpu) α) : (onDevice a).Evolves (StaysIn target) :=
  evolves_onDevice (.any a) fun _ _ _ inside =>
    ⟨inside, [], (List.append_nil _).symm, List.forall_mem_nil _⟩

theorem staysIn_push {command : Recorded} (keeps : Keeps target.area command) :
    (push command).Evolves (StaysIn target) :=
  fun _ inside => ⟨inside, [command], Array.toList_push .., List.forall_mem_singleton.2 keeps⟩

theorem staysIn_updateList {f : CommandList → CommandList} (same : ∀ l, (f l).target = l.target)
    (commands : ∀ l, (f l).commands = l.commands) : (updateList f).Evolves (StaysIn target) :=
  evolves_updateList fun r inside => ⟨(same r.list).trans inside, [],
    by rw [commands, List.append_nil], List.forall_mem_nil _⟩

/-- What is not for the inside of a render pass is refused there. -/
theorem staysIn_checkOutsidePass (what : String) (rest : Action Recording α) :
    (checkOutsidePass what >>= fun _ => rest).Evolves (StaysIn target) := by
  intro r
  rw [wp_bind, wp_checkOutsidePass]
  refine ⟨fun outside => ?_, fun _ => Evolution.refl r⟩
  have vacuous (t : Recording) : StaysIn target r t := fun inside => by
    cases outside.symm.trans inside
  exact (Evolves.any rest r).mono (fun _ t _ => vacuous t) fun _ t _ => vacuous t

/-- A raster pipeline is bound with the viewport of the pass. -/
theorem staysIn_bindPipeline (pipeline : Pipeline) :
    (bindPipeline pipeline).Evolves (StaysIn target) := by
  refine evolves_checkRecording.bind fun _ => ?_
  cases pipeline.kind with
  | compute native => exact staysIn_checkOutsidePass _ _
  | raster template =>
    intro r
    rw [wp_bind, wp_current, wp_bind, wp_orRefuse]
    refine ⟨fun found inside => ?_, fun _ => Evolution.refl r⟩
    have binds (native : NativePipeline) : Evolves (StaysIn found) (do
        push (.renderPipeline native)
        push (.viewport found.area)
        updateList fun l => { l with bound := some ⟨pipeline.isGraphics, pipeline.sets⟩ }) := by
      refine .bind (staysIn_push ⟨nofun, nofun⟩) fun _ => ?_
      refine .bind (staysIn_push ⟨nofun, fun _ same => ?_⟩) fun _ => ?_
      · exact (Recorded.viewport.inj same).symm
      · exact staysIn_updateList (fun _ => rfl) fun _ => rfl
    -- The pass that was found is the one that the list is in.
    have isTarget (t : Recording) (step : StaysIn found r t) : StaysIn target r t := by
      intro inside'
      obtain rfl := Option.some.inj (inside.symm.trans inside')
      exact step inside
    refine (((staysIn_onDevice _).bind fun info => (staysIn_onDevice _).bind fun native =>
      binds native) r).mono ?_ ?_
    · exact fun _ t => isTarget t
    · exact fun _ t => isTarget t

theorem staysIn_bindResources (binder : Binder) :
    (bindResources binder).Evolves (StaysIn target) := by
  refine evolves_checkRecording.bind fun _ => evolves_current.bind fun l => ?_
  refine (Evolves.orRefuse _ _).bind fun bound => (Evolves.forM fun slots => ?_).bind fun _ => ?_
  · refine (staysIn_onDevice _).bind fun set => .bind ?_ fun _ => ?_
    · exact staysIn_updateList (fun _ => rfl) fun _ => rfl
    · exact (staysIn_onDevice _).bind fun group => staysIn_push ⟨nofun, nofun⟩
  · refine (evolves_bindGeometry binder (fun _ => staysIn_onDevice _) ?_ ?_).ite (.pure _)
    · exact fun _ _ _ => staysIn_push ⟨nofun, nofun⟩
    · exact fun _ _ _ => staysIn_push ⟨nofun, nofun⟩

theorem endPass_ends (r : Recording) :
    endPass.wp
      (fun _ t => t.list.commands.toList = r.list.commands.toList ++ [.endRenderPass] ∨
        t.list = r.list)
      (fun _ t => t.list.commands.toList = r.list.commands.toList ++ [.endRenderPass] ∨
        t.list = r.list) r := by
  simp only [endPass, wp_bind, wp_checkRecording, wp_current, wp_assert, wp_updateList, wp_push]
  exact ⟨fun _ => ⟨fun _ => .inl Array.toList_push, fun _ => .inr trivial⟩, fun _ => .inr trivial⟩

end Recording

/-- Any call in a render pass stays in it, but for the one that ends it. -/
theorem RecordingCall.staysIn {call : RecordingCall} (other : call ≠ .endPass)
    (target : RenderTarget) : call.run.Evolves (Recording.StaysIn target) := by
  open Recording in
  cases call with
  | bindPipeline pipeline => exact staysIn_bindPipeline pipeline
  | bindResources binder => exact staysIn_bindResources binder
  | barrier => exact evolves_checkRecording.bind fun _ => staysIn_push ⟨nofun, nofun⟩
  | copy | fill | beginPass =>
    exact evolves_checkRecording.bind fun _ => staysIn_checkOutsidePass _ _
  | dispatch x y z =>
    exact evolves_checkRecording.bind fun _ => evolves_current.bind fun _ =>
      (Evolves.assert _ _).bind fun _ => staysIn_push ⟨nofun, nofun⟩
  | endPass => exact absurd rfl other
  | draw count first =>
    refine evolves_checkRecording.bind fun _ => evolves_current.bind fun _ => ?_
    refine (Evolves.assert _ _).bind fun _ => ?_
    split
    · exact staysIn_push ⟨nofun, nofun⟩
    · exact .pure _
  | drawIndexed count baseVertex first =>
    refine evolves_checkRecording.bind fun _ => evolves_current.bind fun _ => ?_
    refine (Evolves.assert _ _).bind fun _ => .ite ?_ (.pure _)
    split
    · exact staysIn_push ⟨nofun, nofun⟩
    · exact .pure _

namespace CommandList

/-- Whatever is recorded from now on, until a render pass ends there are no viewports but that of an
area. -/
def DrawsIn (area : RenderArea) (l : CommandList) : Prop :=
  ∀ later : List (Live Gpu × RecordingCall), ∃ added,
    (later.foldl record l).commands.toList = l.commands.toList ++ added ∧
      ∀ other, .viewport other ∈ added.takeWhile (· ≠ .endRenderPass) → other = area

variable {l : CommandList} {target : RenderTarget}

theorem adds_eq {made : Live Gpu × RecordingCall} {added : List Recorded}
    (commands : (l.record made).commands.toList = l.commands.toList ++ added) :
    l.adds made = added :=
  List.append_cancel_left ((record_commands l made).symm.trans commands)

/-- A call in a render pass stays in it, or ends it and records nothing else. -/
theorem record_inside (inside : l.target = some target) (made : Live Gpu × RecordingCall) :
    ((l.record made).target = some target ∧
        ∀ command ∈ l.adds made, Recording.Keeps target.area command) ∨
      l.adds made = [.endRenderPass] := by
  by_cases ends : made.2 = .endPass
  · have ended : (l.record made).commands.toList = l.commands.toList ++ [.endRenderPass] ∨
        l.record made = l := by
      rw [record, ends]
      exact wp.outcome (P := fun o : Except Fault Unit × Recording =>
        o.2.list.commands.toList = l.commands.toList ++ [.endRenderPass] ∨ o.2.list = l)
        (Recording.endPass_ends ⟨made.1, l⟩)
    rcases ended with commands | same
    · exact .inr (adds_eq commands)
    · have nothing : l.adds made = [] := adds_eq (by rw [same, List.append_nil])
      exact .inl ⟨by rw [same]; exact inside, by simp [nothing]⟩
  · have stays := (made.2.staysIn ends target).outcome ⟨made.1, l⟩ inside
    obtain ⟨inside', added, commands, keeps⟩ := stays
    have commands : (l.record made).commands.toList = l.commands.toList ++ added := commands
    exact .inl ⟨inside', (adds_eq commands).symm ▸ keeps⟩

/-- In a render pass all viewports are those of its area. -/
theorem drawsIn_of_inside (inside : l.target = some target) : l.DrawsIn target.area := by
  intro later
  induction later generalizing l with
  | nil => exact ⟨[], (List.append_nil _).symm, nofun⟩
  | cons made later ih =>
    rw [List.foldl_cons]
    rcases record_inside inside made with ⟨inside', keeps⟩ | ends
    · obtain ⟨added, commands, draws⟩ := ih inside'
      refine ⟨l.adds made ++ added, ?_, fun other member => ?_⟩
      · rw [commands, record_commands, List.append_assoc]
      · -- The pass is still open, so what comes next counts too.
        have goesOn : ∀ command ∈ l.adds made, decide (command ≠ .endRenderPass) = true :=
          fun command given => decide_eq_true (keeps command given).1
        rw [List.takeWhile_append_of_pos goesOn] at member
        rcases List.mem_append.1 member with here | there
        · exact (keeps _ here).2 other rfl
        · exact draws other there
    · obtain ⟨added, _, commands, -⟩ := @run_succeeding (l.record made) _ rfl later
      refine ⟨l.adds made ++ added, ?_, fun other member => ?_⟩
      · rw [commands, record_commands, List.append_assoc]
      · rw [ends] at member
        simp at member

end CommandList

end DeviceLayer
