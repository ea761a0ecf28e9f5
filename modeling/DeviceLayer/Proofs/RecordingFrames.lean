import DeviceLayer.Proofs.Submissions

/-!
# What recording leaves alone

Recording calls look at the device, make native objects for it, take descriptor sets from its pools
and change their list. A relation that allows this much holds from the state before a recording call
to the state after it, also when the call fails on the way.

* `Recording.Frame` — such a relation.
* `RecordingCall.builds`, `framedPlain` — the calls that build no native pipeline for rendering.
* `RecordingCall.framed` — what every recording call comes to.
-/

namespace DeviceLayer

open DeviceLayer.Action

namespace Recording

/-- The relation on devices, whatever the list. -/
def OnLive (F : Recording → Recording → Prop) (s t : Live Gpu) : Prop :=
  ∀ list, F ⟨s, list⟩ ⟨t, list⟩

instance {F : Recording → Recording → Prop} [Evolution F] : Evolution (OnLive F) where
  refl _ _ := Evolution.refl _
  trans first second list := Evolution.trans (first list) (second list)

/-- A relation that allows at least what recording does, but for building variants of a raster
pipeline. -/
class Frame (F : Recording → Recording → Prop) : Prop extends Evolution F where
  device : Gpu.Frame (OnLive F)
  list : ∀ {r : Recording} {l : CommandList}, l.buffer = r.list.buffer → l.sets = r.list.sets →
    F r { r with list := l }
  /-- Between its pool and the list a set is nowhere: the two moves count as one. -/
  takeSet : ∀ (layout : CacheHandle) (r : Recording),
    (Gpu.allocSet layout).wp (fun set t => F r ⟨t, { r.list with sets := r.list.sets ++ [set] }⟩)
      (fun _ t => F r { r with live := t }) r.live

variable {α : Type} {F : Recording → Recording → Prop}

theorem framed_onDevice {a : Action (Live Gpu) α} (framed : a.Evolves (OnLive F)) :
    (onDevice a).Evolves F :=
  evolves_onDevice framed fun r _ step => step r.list

variable [Frame F]

instance : Gpu.Frame (OnLive F) := Frame.device

theorem framed_updateList {f : CommandList → CommandList} (buffer : ∀ l, (f l).buffer = l.buffer)
    (sets : ∀ l, (f l).sets = l.sets) : (updateList f).Evolves F :=
  evolves_updateList fun r => Frame.list (buffer r.list) (sets r.list)

theorem framed_push (command : Recorded) : (push command).Evolves F :=
  framed_updateList (fun _ => rfl) fun _ => rfl

theorem framed_bindSet (binder : Binder) (index : UInt32) (layout : CacheHandle)
    (slots : SetLayout) : (bindSet binder index layout slots).Evolves F := by
  intro r
  simp only [bindSet, wp_bind (onDevice _), wp_onDevice]
  refine (Frame.takeSet layout r).mono (fun set t taken => ?_) fun _ _ => id
  rw [wp_bind, wp_updateList]
  have rest : (do
      let group ← onDevice (Gpu.writeSet set slots binder index)
      push (.bindGroup index group) : Action Recording Unit).Evolves F :=
    (framed_onDevice (Gpu.framed_writeSet _ _ _ _)).bind fun _ => framed_push _
  exact (rest _).mono (fun _ _ => Evolution.trans taken) fun _ _ => Evolution.trans taken

theorem framed_setBound (bound : BoundPipeline) :
    (updateList fun l => { l with bound := some bound }).Evolves F :=
  framed_updateList (fun _ => rfl) fun _ => rfl

/-- A compute pipeline has no variants. -/
theorem framed_bindCompute {pipeline : Pipeline} (compute : pipeline.isGraphics = false) :
    (bindPipeline pipeline).Evolves F := by
  refine evolves_checkRecording.bind fun _ => ?_
  cases kind : pipeline.kind with
  | compute native =>
    exact (evolves_checkOutsidePass _).bind fun _ => (framed_push _).bind fun _ =>
      framed_setBound _
  | raster template => simp [Pipeline.isGraphics, kind] at compute

/-- A raster pipeline may have a variant built for it. -/
theorem framed_bindPipeline [Gpu.Growing (OnLive F)] (pipeline : Pipeline) :
    (bindPipeline pipeline).Evolves F := by
  cases kind : pipeline.kind with
  | compute native => exact framed_bindCompute (by rw [Pipeline.isGraphics, kind])
  | raster template =>
    refine evolves_checkRecording.bind fun _ => ?_
    rw [kind]
    refine evolves_current.bind fun l => (Evolves.orRefuse _ _).bind fun target => ?_
    refine (framed_onDevice (Gpu.evolves_renderPassInfo _)).bind fun info => ?_
    refine (framed_onDevice (Gpu.framed_variant _ _ _ _)).bind fun native => ?_
    exact (framed_push _).bind fun _ => (framed_push _).bind fun _ => framed_setBound _

/-- Outside render passes none is built either: a raster pipeline is refused. -/
theorem framed_bindOutside (pipeline : Pipeline) {r : Recording}
    (outside : r.list.target = none) :
    (bindPipeline pipeline).wp (fun _ t => F r t) (fun _ t => F r t) r := by
  cases kind : pipeline.kind with
  | compute native => exact framed_bindCompute (by rw [Pipeline.isGraphics, kind]) r
  | raster template =>
    have same : F r r := Evolution.refl r
    simp [bindPipeline, kind, outside, same]

theorem framed_bindGeometry (binder : Binder) : (bindGeometry binder).Evolves F :=
  evolves_bindGeometry binder (fun _ => framed_onDevice (Gpu.evolves_bufferSlice _))
    (fun _ _ _ => framed_push _) fun _ _ _ => framed_push _

theorem framed_bindResources (binder : Binder) : (bindResources binder).Evolves F := by
  refine evolves_checkRecording.bind fun _ => evolves_current.bind fun l => ?_
  refine (Evolves.orRefuse _ _).bind fun bound => ?_
  refine (Evolves.forM fun _ => framed_bindSet _ _ _ _).bind fun _ => ?_
  exact (framed_bindGeometry binder).ite (.pure _)

theorem framed_copy (dst src : Pointer) (size : UInt64) : (copy dst src size).Evolves F := by
  refine evolves_checkRecording.bind fun _ => (evolves_checkOutsidePass _).bind fun _ => ?_
  refine (framed_onDevice (Gpu.evolves_checkedRange _ _)).bind fun srcRange => ?_
  refine (framed_onDevice (Gpu.evolves_checkedRange _ _)).bind fun dstRange => ?_
  exact (Evolves.require _ _).bind fun _ => framed_push _

theorem framed_fill (pointer : Pointer) (size : UInt64) (word : UInt32) :
    (fill pointer size word).Evolves F := by
  refine evolves_checkRecording.bind fun _ => (evolves_checkOutsidePass _).bind fun _ => ?_
  refine (framed_onDevice (Gpu.evolves_checkedRange _ _)).bind fun range => ?_
  refine (Evolves.require _ _).bind fun _ => .ite (.pure _) (.ite (framed_push _) ?_)
  refine .bind (framed_onDevice ?_) fun pattern => framed_push _
  exact Gpu.framed_attempt fun c => Platform.makes_createPattern c _ _

theorem framed_beginPass (area : RenderArea) (colors : List Attachment)
    (depth : Option Attachment) : (beginPass area colors depth).Evolves F := by
  refine evolves_checkRecording.bind fun _ => (evolves_checkOutsidePass _).bind fun _ => ?_
  refine (framed_onDevice (.foldlM Gpu.evolves_addAttachment _)).bind fun c => ?_
  have resolved : (depth.mapM (resolveAttachment c.extent)).Evolves (OnLive F) := by
    cases depth with
    | none => exact .pure _
    | some d => exact (Gpu.evolves_resolveAttachment _ _).bind fun _ => .pure _
  refine (framed_onDevice resolved).bind fun d => ?_
  refine (Evolves.orRefuse _ _).bind fun extent => ?_
  refine (framed_onDevice (Gpu.Frame.renderPass _)).bind fun pass => ?_
  refine (framed_onDevice (Gpu.Frame.framebuffer _)).bind fun framebuffer => ?_
  refine (framed_onDevice (Gpu.evolves_framebufferInfo _)).bind fun fb => ?_
  refine (framed_onDevice (Gpu.evolves_renderPassInfo _)).bind fun info => ?_
  refine (Evolves.require _ _).bind fun _ => (framed_push _).bind fun _ => ?_
  exact framed_updateList (fun _ => rfl) fun _ => rfl

theorem framed_finalize : finalize.Evolves F := by
  intro r
  rw [wp_finalize]
  exact ⟨fun _ => Evolution.refl r, fun _ => Frame.list rfl rfl⟩

end Recording

/-- Whether the call may have a native pipeline built for rendering. -/
def RecordingCall.builds : RecordingCall → Bool
  | .bindPipeline pipeline => pipeline.isGraphics
  | _ => false

theorem RecordingCall.framedPlain {F : Recording → Recording → Prop} [Recording.Frame F]
    (call : RecordingCall) (plain : call.builds = false) : call.run.Evolves F := by
  open Recording in
  cases call with
  | bindPipeline pipeline => exact framed_bindCompute plain
  | bindResources binder => exact framed_bindResources binder
  | barrier => exact evolves_checkRecording.bind fun _ => framed_push _
  | copy dst src size => exact framed_copy dst src size
  | fill pointer size word => exact framed_fill pointer size word
  | dispatch x y z =>
    exact evolves_checkRecording.bind fun _ => evolves_current.bind fun _ =>
      (Evolves.assert _ _).bind fun _ => framed_push _
  | beginPass area colors depth => exact framed_beginPass area colors depth
  | endPass =>
    refine evolves_checkRecording.bind fun _ => evolves_current.bind fun _ => ?_
    refine (Evolves.assert _ _).bind fun _ => .bind ?_ fun _ => framed_push _
    exact framed_updateList (fun _ => rfl) fun _ => rfl
  | draw count first =>
    refine evolves_checkRecording.bind fun _ => evolves_current.bind fun _ => ?_
    refine (Evolves.assert _ _).bind fun _ => ?_
    split
    · exact framed_push _
    · exact .pure _
  | drawIndexed count baseVertex first =>
    refine evolves_checkRecording.bind fun _ => evolves_current.bind fun _ => ?_
    refine (Evolves.assert _ _).bind fun _ => .ite ?_ (.pure _)
    split
    · exact framed_push _
    · exact .pure _

theorem RecordingCall.framed {F : Recording → Recording → Prop} [Recording.Frame F]
    [Gpu.Growing (Recording.OnLive F)] (call : RecordingCall) : call.run.Evolves F := by
  cases call with
  | bindPipeline pipeline => exact Recording.framed_bindPipeline pipeline
  | _ => exact RecordingCall.framedPlain _ rfl

end DeviceLayer
