import DeviceLayer.Proofs.Failures
import DeviceLayer.Proofs.SharedObjects

/-!
# Render passes that lists are in

A list is in a render pass from the call that begins it on. That call has looked the pass up, and no
render pass goes from the cache of a device, so that the pass of a list is always there to be looked
up again.

* `Recording.OpensNone`, `RecordingCall.opensNone` — only one call puts a list in a render pass.
* `Client.Inside` — the device knows the pass of each list.
* `Client.Reachable.inside` — whatever a client calls.
-/

namespace DeviceLayer

open DeviceLayer.Action

/-- What comes before the last steps of an action may be anything that ends. -/
theorem Action.wp_bind_any {σ α β : Type} {a : Action σ β} {rest : β → Action σ α}
    {Q : α → σ → Prop} {s : σ} (h : ∀ x t, (rest x).wp Q (fun _ _ => True) t) :
    (a >>= rest).wp Q (fun _ _ => True) s :=
  (wp_bind _ _).2 ((Evolves.any a s).mono (fun x t _ => h x t) fun _ _ _ => trivial)

/-- What is behind the handle of a render pass stays behind it. -/
theorem Gpu.Shelves.pass {s t : Live Gpu} {pass : CacheHandle} {info : RenderPassInfo}
    (shelves : Shelves s t) (known : s.device.passes.get? pass = some info) :
    t.device.passes.get? pass = some info := by
  have stays := shelves.passes.get? (fun info => info)
    (congrArg (Option.map fun info => info) known)
  simpa using stays

namespace Recording

variable {α : Type}

/-- The list is in the render pass that it was in, or in none. -/
def OpensNone (r t : Recording) : Prop :=
  ∀ target, t.list.target = some target → r.list.target = some target

instance : Evolution OpensNone where
  refl _ _ inside := inside
  trans first second target inside := first target (second target inside)

theorem opensNone_onDevice (a : Action (Live Gpu) α) : (onDevice a).Evolves OpensNone :=
  evolves_onDevice (.any a) fun _ _ _ _ inside => inside

theorem opensNone_push (command : Recorded) : (push command).Evolves OpensNone :=
  evolves_updateList fun _ _ inside => inside

theorem opensNone_setBound (bound : BoundPipeline) :
    (updateList fun l => { l with bound := some bound }).Evolves OpensNone :=
  evolves_updateList fun _ _ inside => inside

theorem opensNone_bindPipeline (pipeline : Pipeline) :
    (bindPipeline pipeline).Evolves OpensNone := by
  refine evolves_checkRecording.bind fun _ => ?_
  cases pipeline.kind with
  | compute native =>
    exact (evolves_checkOutsidePass _).bind fun _ => (opensNone_push _).bind fun _ =>
      opensNone_setBound _
  | raster template =>
    refine evolves_current.bind fun l => (Evolves.orRefuse _ _).bind fun target => ?_
    refine (opensNone_onDevice _).bind fun info => (opensNone_onDevice _).bind fun native => ?_
    exact (opensNone_push _).bind fun _ => (opensNone_push _).bind fun _ => opensNone_setBound _

theorem opensNone_bindResources (binder : Binder) :
    (bindResources binder).Evolves OpensNone := by
  refine evolves_checkRecording.bind fun _ => evolves_current.bind fun l => ?_
  refine (Evolves.orRefuse _ _).bind fun bound => (Evolves.forM fun slots => ?_).bind fun _ => ?_
  · refine (opensNone_onDevice _).bind fun set => .bind ?_ fun _ => ?_
    · exact evolves_updateList fun _ _ inside => inside
    · exact (opensNone_onDevice _).bind fun group => opensNone_push _
  · refine (evolves_bindGeometry binder (fun _ => opensNone_onDevice _) ?_ ?_).ite (.pure _)
    · exact fun _ _ _ => opensNone_push _
    · exact fun _ _ _ => opensNone_push _

theorem opensNone_copy (dst src : Pointer) (size : UInt64) :
    (copy dst src size).Evolves OpensNone := by
  refine evolves_checkRecording.bind fun _ => (evolves_checkOutsidePass _).bind fun _ => ?_
  refine (opensNone_onDevice _).bind fun _ => (opensNone_onDevice _).bind fun _ => ?_
  exact (Evolves.require _ _).bind fun _ => opensNone_push _

theorem opensNone_fill (pointer : Pointer) (size : UInt64) (word : UInt32) :
    (fill pointer size word).Evolves OpensNone := by
  refine evolves_checkRecording.bind fun _ => (evolves_checkOutsidePass _).bind fun _ => ?_
  refine (opensNone_onDevice _).bind fun _ => (Evolves.require _ _).bind fun _ => ?_
  refine .ite (.pure _) (.ite (opensNone_push _) ?_)
  exact (opensNone_onDevice _).bind fun pattern => opensNone_push _

theorem opensNone_endPass : endPass.Evolves OpensNone := by
  refine evolves_checkRecording.bind fun _ => evolves_current.bind fun _ => ?_
  refine (Evolves.assert _ _).bind fun _ => .bind ?_ fun _ => opensNone_push _
  exact evolves_updateList fun _ _ => nofun

theorem opensNone_finalize : finalize.Evolves OpensNone := by
  intro r
  rw [wp_finalize]
  exact ⟨fun _ => Evolution.refl r, fun _ _ => nofun⟩

/-- A render pass that begins has been looked up. -/
theorem wp_beginPass_inside (area : RenderArea) (colors : List Attachment)
    (depth : Option Attachment) (r : Recording) :
    (beginPass area colors depth).wp
      (fun _ t => ∃ target info, t.list.target = some target ∧
        t.live.device.passes.get? target.pass = some info)
      (fun _ _ => True) r := by
  refine wp_bind_any fun _ r => wp_bind_any fun _ r => wp_bind_any fun c r => ?_
  refine wp_bind_any fun d r => wp_bind_any fun extent r => wp_bind_any fun pass r => ?_
  refine wp_bind_any fun framebuffer r => wp_bind_any fun fb r => ?_
  simp only [Gpu.renderPassInfo, wp_bind, wp_onDevice, Live.wp_self, wp_orRefuse, wp_require,
    wp_push, wp_updateList, implies_true, and_true]
  exact fun info known _ => ⟨_, info, rfl, known⟩

end Recording

/-- Only beginning a render pass puts a list in one. -/
theorem RecordingCall.opensNone {call : RecordingCall}
    (other : ∀ area colors depth, call ≠ .beginPass area colors depth) :
    call.run.Evolves Recording.OpensNone := by
  open Recording in
  cases call with
  | bindPipeline pipeline => exact opensNone_bindPipeline pipeline
  | bindResources binder => exact opensNone_bindResources binder
  | barrier => exact evolves_checkRecording.bind fun _ => opensNone_push _
  | copy dst src size => exact opensNone_copy dst src size
  | fill pointer size word => exact opensNone_fill pointer size word
  | dispatch x y z =>
    exact evolves_checkRecording.bind fun _ => evolves_current.bind fun _ =>
      (Evolves.assert _ _).bind fun _ => opensNone_push _
  | beginPass area colors depth => exact absurd rfl (other area colors depth)
  | endPass => exact opensNone_endPass
  | draw count first =>
    refine evolves_checkRecording.bind fun _ => evolves_current.bind fun _ => ?_
    refine (Evolves.assert _ _).bind fun _ => ?_
    split
    · exact opensNone_push _
    · exact .pure _
  | drawIndexed count baseVertex first =>
    refine evolves_checkRecording.bind fun _ => evolves_current.bind fun _ => ?_
    refine (Evolves.assert _ _).bind fun _ => .ite ?_ (.pure _)
    split
    · exact opensNone_push _
    · exact .pure _

/-! ## The lists of a client -/

namespace Client

/-- The device knows the render pass that a list is in, if it is in one. -/
def Knows (s : Live Gpu) (list : CommandList) : Prop :=
  ∀ target, list.target = some target → ∃ info, s.device.passes.get? target.pass = some info

/-- The device knows the render pass of each list. -/
def Inside (c : Client) : Prop := ∀ list ∈ c.lists, Knows c.live list

variable {c : Client} {list : CommandList} {r t : Recording}

theorem Knows.lasts {s u : Live Gpu} (h : Knows s list) (shelves : Gpu.Shelves s u) :
    Knows u list :=
  fun target inside => (h target inside).imp fun _ known => shelves.pass known

theorem Knows.opensNone (h : Knows r.live r.list) (shelves : Gpu.Shelves r.live t.live)
    (opens : Recording.OpensNone r t) : Knows t.live t.list :=
  fun target inside => h.lasts shelves target (opens target inside)

theorem Knows.record (h : Knows r.live r.list) (call : RecordingCall) :
    Knows (call.run.outcome r).2.live (call.run.outcome r).2.list := by
  have shelves : Gpu.Shelves r.live (call.run.outcome r).2.live :=
    (call.framed (F := Recording.OfLive Gpu.Shelves)).outcome r
  by_cases begins : ∃ area colors depth, call = .beginPass area colors depth
  · obtain ⟨area, colors, depth, rfl⟩ := begins
    have inside := Recording.wp_beginPass_inside area colors depth r
    have spares := @RecordingCall.spares (.beginPass area colors depth) nofun r
    generalize ended : (RecordingCall.beginPass area colors depth).run.outcome r = o at shelves ⊢
    obtain ⟨result, t⟩ := o
    cases result with
    | error e =>
      have same : t.list = r.list := spares.failed ended
      exact same ▸ h.lasts shelves
    | ok =>
      obtain ⟨target, info, inside, known⟩ := inside.ended ended
      intro target' inside'
      cases inside.symm.trans inside'
      exact ⟨info, known⟩
  · have other (area : RenderArea) (colors : List Attachment) (depth : Option Attachment) :
        call ≠ .beginPass area colors depth := fun same => begins ⟨area, colors, depth, same⟩
    exact h.opensNone shelves ((RecordingCall.opensNone other).outcome r)

theorem Inside.onList {i : Nat} {action : Action Recording Unit} (h : c.Inside)
    (shelves : Gpu.Shelves c.live (c.onList i action).2.live)
    (knows : ∀ list, Knows c.live list → Knows (action.outcome ⟨c.live, list⟩).2.live
      (action.outcome ⟨c.live, list⟩).2.list) : (c.onList i action).2.Inside := by
  revert shelves
  unfold Client.onList
  split
  · exact fun _ => h
  · rename_i list found
    intro shelves list' member
    rcases List.mem_or_eq_of_mem_set member with before | rfl
    · exact (h list' before).lasts shelves
    · exact knows list (h list (List.mem_of_getElem? found))

/-- Where no list has changed and none is new, the passes are known as before. -/
theorem Inside.subset {c' : Client} (h : c.Inside) (shelves : Gpu.Shelves c.live c'.live)
    (lists : c'.lists ⊆ c.lists) : c'.Inside :=
  fun list member => (h list (lists member)).lasts shelves

/-- A new list is in no render pass. -/
theorem Inside.newList (h : c.Inside) : (Call.newList.step c).2.Inside := by
  have made := Gpu.wp_newList_framed (S := Gpu.Shelves) c.live
  simp only [Call.step, Client.onDevice]
  cases ran : Gpu.newList.outcome c.live with
  | mk result t =>
    cases result with
    | ok new =>
      obtain ⟨⟨buffer, rfl⟩, shelves⟩ := made.ended ran
      intro list member
      rcases List.mem_append.1 member with before | new
      · exact (h list before).lasts shelves
      · obtain rfl := List.mem_singleton.1 new
        intro target inside
        cases inside
    | error e => exact h.subset (made.failed ran) (List.Subset.refl _)

theorem Inside.step (h : c.Inside) (call : Call) : (call.step c).2.Inside := by
  have shelves := call.framedImage (S := Gpu.Shelves) c
  cases call with
  | record i call => exact h.onList shelves fun list knows => knows.record call
  | finalize i =>
    refine h.onList shelves fun list knows => ?_
    have finished : (discard Recording.finalize).Evolves (Recording.OfLive Gpu.Shelves) :=
      Recording.framed_finalize.discard
    exact knows.opensNone (finished.outcome _) (Recording.opensNone_finalize.discard.outcome _)
  | sync | device | script => exact h.subset shelves (List.Subset.refl _)
  | newList => exact h.newList
  | submit i wait =>
    refine h.subset shelves ?_
    simp only [Call.step]
    split
    · exact List.Subset.refl _
    · exact List.eraseIdx_subset
  | drop i =>
    refine h.subset shelves ?_
    simp only [Call.step]
    split
    · exact List.Subset.refl _
    · exact List.eraseIdx_subset
  | launch stream kernel mapping =>
    refine h.subset shelves ?_
    rw [launch_lists]
    exact List.Subset.refl _

theorem Inside.run (h : c.Inside) (calls : List Call) : (c.run calls).Inside :=
  List.foldlRecOn calls _ h fun _ h call _ => h.step call

/-- In every state that a client can come to, the device knows the render pass of each list. -/
theorem Reachable.inside (reachable : c.Reachable) : c.Inside := by
  obtain ⟨start, fresh, calls, rfl⟩ := reachable
  have none : start.Inside := by
    cases fresh
    exact List.forall_mem_nil _
  exact none.run calls

end Client

end DeviceLayer
