import DeviceLayer.Proofs.PipelineLayouts
import Mathlib.Data.List.Perm.Basic

/-!
# Requests for raster pipelines

A request for a raster pipeline is served or not for what it is: its targets can be drawn to, its
sources are for different stages and each is taken in, one of them is for vertices, its sets have
indices and its attributes have their slots. Nothing else matters, in whatever state the device is,
nor does the order in which the sources are given.

* `Gpu.RasterRequest.Sound` — what it takes.
* `Gpu.sourceOf`, `Gpu.nativeStage` — the source for a stage, and what is compiled of it.
* `Gpu.RasterStages.wp_addAll` — taking in sources one after the other.
* `Client.Reachable.remade` — the same sources in another order.
-/

namespace DeviceLayer

open DeviceLayer.Action

/-- No turn of a loop fails if none does that finds what the turn before it leaves. -/
theorem Action.wp_mapM_sure {σ α β : Type} {I : σ → Prop} {f : β → Action σ α}
    (each : ∀ x t, I t → (f x).wp (fun _ u => I u) (fun _ _ => False) t) (xs : List β) {s : σ}
    (holds : I s) : (xs.mapM f).wp (fun _ _ => True) (fun _ _ => False) s := by
  induction xs generalizing s with
  | nil => exact trivial
  | cons x xs ih =>
    rw [List.mapM_cons, wp_bind]
    refine (each x s holds).mono (fun _ t still => ?_) fun _ _ failed => failed
    exact (wp_bind _ _).2 ((ih still).mono (fun _ _ _ => trivial) fun _ _ failed => failed)

namespace Gpu

/-- A binder can be laid out if the highest set of all is not in it. -/
theorem groupCount_eq_ok_iff (b : Binder) :
    (∃ n, groupCount b = .ok n) ↔ b.sets.get? 0xFFFFFFFF = none := by
  have known (set : UInt32) : set ∈ b.sets.keys ↔ b.sets.get? set ≠ none := by
    rw [Option.ne_none_iff_exists']
    simp only [SortedMap.get?_eq_some_iff]
    simp [SortedMap.keys, SortedMap.toList]
  rw [← not_iff_not, ← Ne.eq_def (b.sets.get? _), ← known]
  unfold groupCount
  cases highest : b.sets.keys.getLast? with
  | none => simp [List.getLast?_eq_none_iff.1 highest]
  | some last =>
    obtain ⟨sooner, keys⟩ := List.getLast?_eq_some_iff.1 highest
    have ascending : b.sets.keys.Pairwise fun x y => Ranked.rank x < Ranked.rank y :=
      List.pairwise_map.2 b.sets.sorted
    rw [keys] at ascending ⊢
    by_cases most : last = 0xFFFFFFFF
    · simp [most]
    · simp only [if_neg most, List.mem_append, List.mem_singleton, Ne.symm most, or_false]
      refine iff_of_false (not_not.2 ⟨_, rfl⟩) fun member => ?_
      have below := (List.pairwise_append.1 ascending).2.2 _ member last (by simp)
      have least : last.toNat < 2 ^ 32 := last.toNat_lt
      have := Int.ofNat_lt.1 below
      change 0xFFFFFFFF < last.toNat at this
      omega

/-- The handle of a description is that of an object; once the handles have run out it may be that
of another one. -/
theorem Shelved.exists_layout {s : Live Gpu} (shelved : Shelved s) {slots : SetLayout}
    {handle : CacheHandle} (found : s.device.layouts.lookup slots = some handle) :
    ∃ entry, s.device.layouts.get? handle = some entry := by
  obtain ⟨i, entry⟩ := List.mem_iff_getElem?.1 (ObjectCache.mem_of_lookup found)
  rw [shelved.layouts.getElem?_index, Option.map_eq_some_iff] at entry
  obtain ⟨_, at_, same⟩ := entry
  obtain ⟨-, rfl⟩ := Prod.mk.inj same
  have there := (List.getElem?_eq_some_iff.1 at_).1
  rw [shelved.layouts.length_keys] at there
  exact ObjectCache.exists_get? (Nat.lt_of_le_of_lt (Nat.mod_le _ _) there)

theorem sure_setLayout (slots : SetLayout) : Sure (setLayout slots) := by
  intro s
  simp only [Gpu.setLayout, wp_bind, Live.wp_self, ObjectCache.wp_getOrInsert]
  exact ⟨fun _ _ => trivial, fun _ => trivial⟩

/-- A binder is laid out exactly if the highest set of all is not in it. -/
theorem wp_pipelineLayout_iff (b : Binder) (name : String) {s : Live Gpu} (shelved : Shelved s) :
    (pipelineLayout b name).wp (fun _ _ => b.sets.get? 0xFFFFFFFF = none)
      (fun _ _ => b.sets.get? 0xFFFFFFFF ≠ none) s := by
  simp only [pipelineLayout, wp_bind, wp_check, Live.wp_record, wp_pure]
  refine ⟨fun n counted => ?_, fun e failed free => ?_⟩
  · -- Once the indices are counted nothing is in the way of the layouts.
    refine (wp_mapM_sure (I := Shelved) (fun index t shelved => ?_) _ shelved).mono
      (fun _ _ _ => (groupCount_eq_ok_iff b).1 ⟨n, counted⟩) fun _ _ => False.elim
    simp only [wp_bind, wp_pure, layoutEntry, Live.wp_self, wp_orRefuse]
    refine ((setLayout_ends _ t).and (sure_setLayout _ t)).mono ?_ fun _ _ failed => failed.2
    rintro handle u ⟨⟨found, step⟩, -⟩
    obtain ⟨entry, there⟩ := (step.shelved shelved).exists_layout found
    exact ⟨fun _ _ => step.shelved shelved, fun missing => by simp [there] at missing⟩
  · obtain ⟨n, counted⟩ := (groupCount_eq_ok_iff b).2 free
    cases failed.symm.trans counted

/-! Which sources are taken in is up to their stages and to themselves. -/

/-- The stage that a source is for a pipeline of that name. -/
def nativeStage (name : String) (source : ShaderSource) : NativeStage :=
  ⟨⟨name, source.code⟩, source.entryPoint⟩

/-- The source among these that is for a stage. -/
def sourceOf (sources : List ShaderSource) (stage : Stage) : Option ShaderSource :=
  sources.find? fun source => source.stage = stage

theorem isSome_sourceOf {sources : List ShaderSource} {stage : Stage} :
    (sourceOf sources stage).isSome = true ↔ stage ∈ sources.map (·.stage) := by
  simp [sourceOf, List.find?_isSome]

namespace RasterStages

/-- What was taken in for a stage. -/
def stage? (stages : RasterStages) : Stage → Option NativeStage
  | .vertex => stages.vertex
  | .fragment => stages.fragment
  | .compute => none

/-- One more source can be taken in. -/
structure Takes (stages : RasterStages) (source : ShaderSource) : Prop where
  draws : source.stage ≠ .compute
  free : stages.stage? source.stage = none
  reflects : ∃ r, source.reflectStage = .ok r

/-- The stages with one more source, of which this is reflected. -/
def added (stages : RasterStages) (name : String) (source : ShaderSource) (r : Reflection) :
    RasterStages :=
  let stages := { stages with reflections := stages.reflections ++ [r] }
  match source.stage with
  | .vertex => { stages with vertex := some (nativeStage name source) }
  | _ => { stages with fragment := some (nativeStage name source) }

/-- Only the stage of the source that is taken in is taken. -/
theorem stage?_added {stages : RasterStages} {source : ShaderSource}
    (draws : source.stage ≠ .compute) (name : String) (r : Reflection) (stage : Stage) :
    (stages.added name source r).stage? stage =
      if source.stage = stage then some (nativeStage name source) else stages.stage? stage := by
  unfold added
  cases own : source.stage with
  | compute => exact absurd own draws
  | vertex => cases stage <;> rfl
  | fragment => cases stage <;> rfl

theorem add_eq (name : String) (stages : RasterStages) (source : ShaderSource) :
    stages.add name source = (do
      Action.require (source.stage ≠ .compute) (.computeInRaster name)
      Action.require (stages.stage? source.stage).isNone (.stageTwice name source.stage)
      let r ← Action.check source.reflectStage
      discard (shaderModule source name)
      pure (stages.added name source r)) := by
  unfold add added stage?
  cases source.stage <;> rfl

theorem wp_add (name : String) (stages : RasterStages) (source : ShaderSource) (s : Live Gpu) :
    (stages.add name source).wp
      (fun next t => stages.Takes source ∧ Shelves s t ∧
        ∃ r, source.reflectStage = .ok r ∧ next = stages.added name source r)
      (fun _ _ => ¬stages.Takes source) s := by
  have told (e : Event) : Shelves s { s with platform := s.platform.record e } :=
    .of_caches (Nat.le_refl _) (Evolution.refl _) rfl rfl rfl
  rw [add_eq]
  simp only [wp_bind, wp_pure, wp_require, wp_check, wp_discard, shaderModule, Live.wp_record,
    decide_eq_true_eq, decide_eq_false_iff_not, Option.isNone_iff_eq_none]
  refine ⟨fun draws => ⟨fun free => ⟨fun r reflected => ?_, fun e failed takes => ?_⟩,
    fun taken takes => ?_⟩, fun computes takes => computes takes.draws⟩
  · exact ⟨⟨draws, free, r, reflected⟩, told _, r, reflected, rfl⟩
  · obtain ⟨r, reflected⟩ := takes.reflects
    cases failed.symm.trans reflected
  · simp [takes.free] at taken

/-- All of the sources can be taken in. -/
structure TakesAll (stages : RasterStages) (sources : List ShaderSource) : Prop where
  once : (sources.map (·.stage)).Nodup
  each : ∀ source ∈ sources, stages.Takes source

/-- Whether more sources can be taken in after one is up to their stages. -/
theorem takesAll_cons {stages : RasterStages} {source : ShaderSource}
    {sources : List ShaderSource} (takes : stages.Takes source) (name : String) (r : Reflection) :
    stages.TakesAll (source :: sources) ↔ (stages.added name source r).TakesAll sources := by
  -- A source that comes later finds its stage free if it has another one than this source.
  have free (other : ShaderSource) : (stages.added name source r).Takes other ↔
      source.stage ≠ other.stage ∧ stages.Takes other := by
    have entry : (stages.added name source r).stage? other.stage = none ↔
        source.stage ≠ other.stage ∧ stages.stage? other.stage = none := by
      rw [stage?_added takes.draws]
      split <;> simp_all
    constructor
    · rintro ⟨draws, none, reflects⟩
      obtain ⟨apart, free⟩ := entry.1 none
      exact ⟨apart, draws, free, reflects⟩
    · rintro ⟨apart, draws, free, reflects⟩
      exact ⟨draws, entry.2 ⟨apart, free⟩, reflects⟩
  constructor
  · rintro ⟨once, each⟩
    obtain ⟨first, once⟩ := List.nodup_cons.1 once
    refine ⟨once, fun other member => (free other).2 ⟨fun same => first ?_, ?_⟩⟩
    · exact List.mem_map.2 ⟨other, member, same.symm⟩
    · exact each other (List.mem_cons_of_mem _ member)
  · rintro ⟨once, each⟩
    refine ⟨List.nodup_cons.2 ⟨fun member => ?_, once⟩, ?_⟩
    · obtain ⟨other, member, same⟩ := List.mem_map.1 member
      exact ((free other).1 (each other member)).1 same.symm
    · rintro other (- | ⟨_, member⟩)
      · exact takes
      · exact ((free other).1 (each other member)).2

/-- Sources are taken in exactly if they all can be, one after the other. Each stage is then made
from the source that is for it. -/
theorem wp_addAll (name : String) (stages : RasterStages) (sources : List ShaderSource)
    (s : Live Gpu) :
    (sources.foldlM (RasterStages.add name) stages).wp
      (fun all t => stages.TakesAll sources ∧ Shelves s t ∧
        ∀ stage, all.stage? stage =
          ((sourceOf sources stage).map (nativeStage name)).or (stages.stage? stage))
      (fun _ _ => ¬stages.TakesAll sources) s := by
  induction sources generalizing stages s with
  | nil => exact ⟨⟨List.nodup_nil, nofun⟩, Evolution.refl s, fun _ => rfl⟩
  | cons source sources ih =>
    rw [List.foldlM_cons, wp_bind]
    refine (stages.wp_add name source s).mono ?_ fun e t failed all =>
      failed (all.each source List.mem_cons_self)
    rintro next t ⟨takes, step, r, -, rfl⟩
    rw [takesAll_cons takes name r]
    refine (ih (stages.added name source r) t).mono ?_ fun _ _ failed => failed
    rintro all u ⟨takesAll, rest, made⟩
    refine ⟨takesAll, Evolution.trans step rest, fun stage => ?_⟩
    rw [made, stage?_added takes.draws, sourceOf, sourceOf, List.find?_cons]
    by_cases own : source.stage = stage
    · -- No later source is for this stage.
      have later : sourceOf sources stage = none := by
        have once := ((takesAll_cons takes name r).2 takesAll).once
        rw [← Option.not_isSome_iff_eq_none, isSome_sourceOf, ← own]
        exact (List.nodup_cons.1 once).1
      rw [sourceOf] at later
      simp [own, later]
    · simp [own]

end RasterStages

/-- What it takes for a raster pipeline to be made. -/
structure RasterRequest.Sound (request : RasterRequest) : Prop where
  targets : ∀ f ∈ request.targets, f.texture? ≠ none
  sources : RasterStages.TakesAll {} request.sources
  vertex : Stage.vertex ∈ request.sources.map (·.stage)
  /-- No source has a buffer in the highest set of all. -/
  sets : ∀ stages, request.sources.mapM ShaderSource.reflectStage = .ok stages →
    (lockedBinder stages).sets.get? 0xFFFFFFFF = none
  buffers : ∃ slots, vertexBuffers request.inputs request.attributes = .ok slots

/-- A raster pipeline is made exactly if its request is sound. -/
theorem wp_createRasterPipeline_iff (request : RasterRequest) (name : String) {s : Live Gpu}
    (shelved : Shelved s) :
    (createRasterPipeline request name).wp (fun _ _ => request.Sound) (fun _ _ => ¬request.Sound)
      s := by
  unfold createRasterPipeline
  split
  · rename_i bad found
    have missing := List.find?_some found
    rw [Option.isNone_iff_eq_none] at missing
    exact fun sound => sound.targets bad (List.mem_of_find?_eq_some found) missing
  · rename_i nothing
    have targets : ∀ f ∈ request.targets, f.texture? ≠ none := by
      simpa [List.find?_eq_none] using Option.eq_none_iff_forall_ne_some.2 nothing
    refine (wp_bind _ _).2 (((RasterStages.wp_addAll name {} request.sources s).and
      (wp_addStages name request.sources {} s)).mono ?_ fun e t failed sound =>
        failed.1 sound.sources)
    rintro all t ⟨⟨sources, step, made⟩, stages, reflected, reflections⟩
    have drawn : all.vertex.isSome = true ↔ Stage.vertex ∈ request.sources.map (·.stage) := by
      rw [← isSome_sourceOf, show all.vertex = _ from made .vertex]
      simp [RasterStages.stage?]
    -- All sources are in; what is left to fail are the vertex stage, the sets and the attributes.
    simp only [wp_bind, wp_orRefuse]
    refine ⟨fun entry vertex => ?_, fun missing sound => ?_⟩
    · have vertex := drawn.1 (Option.isSome_of_eq_some vertex)
      rw [List.nil_append] at reflections
      rw [reflections]
      refine (wp_pipelineLayout_iff (lockedBinder stages) name (step.shelved shelved)).mono
        (fun _ u free => ?_) fun _ _ taken sound => taken (sound.sets stages reflected)
      simp only [wp_checked, Live.wp_request, wp_pure]
      refine ⟨fun slots buffers => ⟨targets, sources, vertex, fun rs same => ?_, slots, buffers⟩,
        fun e failed sound => ?_⟩
      · obtain rfl := Except.ok.inj (reflected.symm.trans same)
        exact free
      · obtain ⟨slots, buffers⟩ := sound.buffers
        cases failed.symm.trans buffers
    · have known := drawn.2 sound.vertex
      simp [missing] at known

/-- Sources that are taken in reflect their stages in any order. -/
theorem reflected_perm {sources sources' : List ShaderSource} (order : sources'.Perm sources)
    {stages : List Reflection}
    (reflected : sources.mapM ShaderSource.reflectStage = .ok stages) :
    ∃ stages', sources'.mapM ShaderSource.reflectStage = .ok stages' ∧ stages'.Perm stages := by
  obtain ⟨stages', each, perm⟩ := List.perm_comp_forall₂ order (mapM_eq_ok_iff.1 reflected)
  exact ⟨stages', mapM_eq_ok_iff.2 each, perm⟩

theorem RasterRequest.Sound.of_perm {request : RasterRequest} (sound : request.Sound)
    {sources : List ShaderSource} (order : sources.Perm request.sources) :
    RasterRequest.Sound { request with sources } where
  targets := sound.targets
  sources := ⟨(order.map _).nodup_iff.2 sound.sources.once,
    fun source member => sound.sources.each source (order.mem_iff.1 member)⟩
  vertex := (order.map _).mem_iff.2 sound.vertex
  sets stages' reflected' := by
    obtain ⟨stages, reflected, perm⟩ := reflected_perm order.symm reflected'
    have free := sound.sets stages reflected
    rw [← Option.not_isSome_iff_eq_none, isSome_sets_lockedBinder] at free ⊢
    rintro ⟨b, member, there⟩
    exact free ⟨b, (perm.flatMap_right _).mem_iff.2 member, there⟩
  buffers := sound.buffers

/-- Binders with the same layouts are laid out by the same slots. -/
theorem LaysOut.map_slots {g g' : Gpu} {b b' : Binder} {sets sets' : List (CacheHandle × SetLayout)}
    (h : g.LaysOut b sets) (h' : g'.LaysOut b' sets')
    (same : ∀ set, b'.setLayout? set = b.setLayout? set) :
    sets'.map (·.2) = sets.map (·.2) := by
  have known (set : UInt32) : (b'.sets.get? set).isSome = (b.sets.get? set).isSome := by
    simpa [Binder.setLayout?] using congrArg Option.isSome (same set)
  -- There are as many layouts as it takes to reach the highest set, which both binders share.
  have within (i : Nat) : i < sets'.length ↔ i < sets.length := by
    rw [lt_groupCount h'.count, lt_groupCount h.count]
    simp only [known]
  have length : sets'.length = sets.length := by
    have most := within sets.length
    have most' := within sets'.length
    omega
  refine List.ext_getElem (by simpa using length) fun i within' within => ?_
  rw [List.length_map] at within within'
  rw [List.getElem_map, List.getElem_map, h'.slots (List.getElem?_eq_getElem within'),
    h.slots (List.getElem?_eq_getElem within), same]

end Gpu

namespace Client

/-- A sound request is served in every state that a client can come to. -/
theorem Reachable.makes {c : Client} (reachable : c.Reachable) {request : Gpu.RasterRequest}
    (sound : request.Sound) (name : String) :
    ∃ p c', c.onDevice (Gpu.createRasterPipeline request name) = (.ok p, c') := by
  have iff := Gpu.wp_createRasterPipeline_iff request name reachable.shelved
  cases ended : (Gpu.createRasterPipeline request name).outcome c.live with
  | mk result t =>
    cases result with
    | ok p => exact ⟨p, { c with live := t }, by rw [onDevice, ended]⟩
    | error e => exact absurd sound (iff.failed ended)

/-- A raster pipeline that was made can be made from its sources in any other order too, and on any
device. Its binder is then that of the stages in this order. -/
theorem Reachable.remade {c c' d : Client} (reachable : c.Reachable) (reachable' : d.Reachable)
    {request : Gpu.RasterRequest} {name : String} {p : Pipeline}
    (made : c.onDevice (Gpu.createRasterPipeline request name) = (.ok p, c'))
    {stages : List Reflection}
    (reflected : request.sources.mapM ShaderSource.reflectStage = .ok stages)
    {sources : List ShaderSource} (order : sources.Perm request.sources) :
    ∃ stages' p' d', sources.mapM ShaderSource.reflectStage = .ok stages' ∧
      stages'.Perm stages ∧
      d.onDevice (Gpu.createRasterPipeline { request with sources } name) = (.ok p', d') ∧
      p.binder = lockedBinder stages ∧ p'.binder = lockedBinder stages' ∧
      ((∀ set, p'.binder.setLayout? set = p.binder.setLayout? set) →
        p'.sets.map (·.2) = p.sets.map (·.2)) := by
  have sound : request.Sound := by
    obtain ⟨result, -⟩ := Prod.mk.inj made
    exact (Gpu.wp_createRasterPipeline_iff request name reachable.shelved).ended
      (Prod.ext result rfl)
  obtain ⟨p', d', made'⟩ := reachable'.makes (sound.of_perm order) name
  obtain ⟨own, reflects, laid⟩ := (Makes.raster made).laid []
  obtain ⟨stages', reflected', laid'⟩ := (Makes.raster made').laid []
  obtain rfl := Except.ok.inj (reflected.symm.trans reflects)
  obtain ⟨others, reflects', perm⟩ := Gpu.reflected_perm order reflected
  obtain rfl := Except.ok.inj (reflected'.symm.trans reflects')
  exact ⟨stages', p', d', reflected', perm, made', laid.binder, laid'.binder,
    laid.sets.map_slots laid'.sets⟩

end Client

end DeviceLayer
