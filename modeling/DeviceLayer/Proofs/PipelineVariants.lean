import DeviceLayer.Proofs.OpenPasses
import DeviceLayer.Proofs.RasterRequests
import Mathlib.Data.List.Dedup

/-!
# Variants of raster pipelines

A raster pipeline is a template of what was asked for. For each render pass that it is bound in, one
native pipeline is built of it, with the formats of that pass, and kept by the handle of the pass;
this is what is recorded each time. Nothing else touches the variants of a pipeline, and a pass with
another number of targets gives it none.

* `Pipeline.BuiltFor` — what a native pipeline has to be built from for a render pass.
* `RasterTemplate.Follows` — what a pipeline keeps of its request for that.
* `Platform.Builds`, `Recording.VariantEnd`, `Recording.RasterEnd` — what binding a raster pipeline
  comes to.
* `Gpu.KeepsVariants`, `Call.keepsVariants` — what leaves all variants alone.
* `Gpu.HasVariants` — the variants of a pipeline are those of the passes that it was bound in.
* `Client.passesBound`, `Client.passesBuilt` — these passes, and when a variant is built for them.
* `Client.VariantLaw`, `Client.variants_of_passes` — the whole statement.
-/

namespace DeviceLayer

open DeviceLayer.Action

namespace SortedMap

variable {κ α : Type} [Ranked κ]

theorem nodup_keys (m : SortedMap κ α) : m.keys.Nodup := by
  have ascending : m.keys.Pairwise fun k k' => Ranked.rank k < Ranked.rank k' :=
    List.pairwise_map.2 m.sorted
  refine ascending.imp fun less same => ?_
  rw [same] at less
  exact Int.lt_irrefl _ less

theorem mem_keys_iff {m : SortedMap κ α} {k : κ} : k ∈ m.keys ↔ (m.get? k).isSome = true := by
  rw [Option.isSome_iff_exists]
  simp only [get?_eq_some_iff]
  simp [keys, toList]

/-- A map has as many entries as there are keys in a list that has just its keys, each counted
once. -/
theorem size_eq_of_keys [DecidableEq κ] {m : SortedMap κ α} {ks : List κ}
    (same : ∀ k, (m.get? k).isSome = true ↔ k ∈ ks) : m.size = ks.dedup.length := by
  have perm : m.keys.Perm ks.dedup :=
    (List.perm_ext_iff_of_nodup m.nodup_keys ks.nodup_dedup).2 fun k => by
      rw [mem_keys_iff, same, List.mem_dedup]
  rw [← perm.length_eq, keys, List.length_map, size]

end SortedMap

/-! ## What a variant is built from -/

/-- What a native pipeline is built from that draws, in a render pass, what a pipeline was asked
for: its shaders, vertex input and fixed-function state are those of the request, and its formats
are those of the pass. -/
structure Pipeline.BuiltFor (p : Pipeline) (request : Gpu.RasterRequest) (info : RenderPassInfo)
    (desc : RenderPipelineDesc) : Prop where
  label : desc.label = p.name
  layout : desc.layout = p.layout
  vertex : (Gpu.sourceOf request.sources .vertex).map (Gpu.nativeStage p.name) = some desc.vertex
  /-- The fragment stage, if there is one, writes just the colors of the pass. -/
  fragment : desc.fragment = (Gpu.sourceOf request.sources .fragment).map fun source =>
    (Gpu.nativeStage p.name source, info.colorFormats)
  buffers : vertexBuffers request.inputs request.attributes = .ok desc.buffers
  topology : desc.topology = request.raster.topology
  cull : desc.cull = request.raster.cull
  depthFormat : desc.depth.map (·.format) = info.depthFormat
  depthState : ∀ depth ∈ desc.depth,
    depth.write = request.raster.depthWrite ∧ depth.test = request.raster.depthTest

/-- The template holds what the request of a pipeline of that name says. -/
structure RasterTemplate.Follows (t : RasterTemplate) (request : Gpu.RasterRequest)
    (name : String) : Prop where
  vertex : (Gpu.sourceOf request.sources .vertex).map (Gpu.nativeStage name) = some t.vertex
  fragment : t.fragment = (Gpu.sourceOf request.sources .fragment).map (Gpu.nativeStage name)
  buffers : vertexBuffers request.inputs request.attributes = .ok t.buffers
  raster : t.raster = request.raster
  targets : t.targets = request.targets.length

theorem RasterTemplate.Follows.builtFor {p : Pipeline} {t : RasterTemplate}
    {request : Gpu.RasterRequest} (h : t.Follows request p.name) (info : RenderPassInfo) :
    p.BuiltFor request info (Recording.variantDesc p t info) where
  label := rfl
  layout := rfl
  vertex := h.vertex
  fragment := by
    rw [Recording.variantDesc, h.fragment, Option.map_map]
    rfl
  buffers := h.buffers
  topology := congrArg RasterParams.topology h.raster
  cull := congrArg RasterParams.cull h.raster
  depthFormat := by
    rw [Recording.variantDesc]
    cases info.depthFormat <;> rfl
  depthState := by
    rintro depth there
    obtain ⟨format, -, rfl⟩ := Option.map_eq_some_iff.1 there
    exact ⟨congrArg RasterParams.depthWrite h.raster, congrArg RasterParams.depthTest h.raster⟩

/-! ## Building a variant -/

namespace Platform

variable {p q : Platform} {id : Nat} {pass : CacheHandle}

theorem variantsOf_keepVariant (p : Platform) (id : Nat) (pass : CacheHandle)
    (built : NativePipeline) (other : Nat) :
    (p.keepVariant id pass built).variantsOf other =
      if other = id ∧ id < p.variants.length then (p.variantsOf id).insert pass built
      else p.variantsOf other := by
  simp only [variantsOf, keepVariant, List.getD_eq_getElem?_getD, List.getElem?_modify]
  by_cases same : id = other
  · subst same
    by_cases known : id < p.variants.length
    · simp [known]
    · simp [known]
  · simp [same, Ne.symm same]

/-- One native pipeline was built for rendering, and is kept by a pipeline for a render pass. -/
structure Builds (native : NativePipeline) (desc : RenderPipelineDesc) (id : Nat)
    (pass : CacheHandle) (p q : Platform) : Prop where
  own : id < p.variants.length → q.variantsOf id = (p.variantsOf id).insert pass native
  others : ∀ other, other ≠ id → q.variantsOf other = p.variantsOf other
  known : q.variants.length = p.variants.length
  renderPipelines : q.renderPipelines = p.renderPipelines ++ [(native, desc)]
  ordinal : native.name.ordinal = p.names.renderPipelines
  named : q.names.renderPipelines = p.names.renderPipelines + 1

theorem builds_keepVariant (c : Connection) (desc : RenderPipelineDesc) (id : Nat)
    (pass : CacheHandle) (p : Platform) :
    Builds (p.createRenderPipeline c desc).1 desc id pass p
      ((p.createRenderPipeline c desc).2.keepVariant id pass
        (p.createRenderPipeline c desc).1) where
  own known := by
    rw [variantsOf_keepVariant]
    exact if_pos ⟨rfl, known⟩
  others other differs := by
    rw [variantsOf_keepVariant]
    exact if_neg fun same => differs same.1
  known := List.length_modify ..
  renderPipelines := List.filterMap_append
  ordinal := rfl
  named := rfl

end Platform

namespace Recording

variable {p : Pipeline} {t : RasterTemplate} {pass : CacheHandle} {info : RenderPassInfo}

/-- The fault of a pipeline with another number of targets than a render pass has. -/
def otherCount (p : Pipeline) (targets : Nat) (info : RenderPassInfo) : Fault :=
  .device (.precondition (.targetCount p.name targets info.colorFormats.length))

/-- All that can come of asking for a variant: there is one, or one is built, or there cannot be
one. -/
inductive VariantEnd (p : Pipeline) (t : RasterTemplate) (pass : CacheHandle)
    (info : RenderPassInfo) (s : Live Gpu) : Except Fault NativePipeline → Live Gpu → Prop where
  | kept {native : NativePipeline}
    (found : (s.platform.variantsOf p.id).get? pass = some native) :
    VariantEnd p t pass info s (.ok native) s
  | built {native : NativePipeline} {q : Platform}
    (missing : (s.platform.variantsOf p.id).get? pass = none)
    (count : info.colorFormats.length = t.targets)
    (builds : s.platform.Builds native (variantDesc p t info) p.id pass q) :
    VariantEnd p t pass info s (.ok native) { s with platform := q }
  | refused (missing : (s.platform.variantsOf p.id).get? pass = none)
    (count : info.colorFormats.length ≠ t.targets) :
    VariantEnd p t pass info s (.error (otherCount p t.targets info)) s

theorem variant_ends (p : Pipeline) (t : RasterTemplate) (pass : CacheHandle)
    (info : RenderPassInfo) (s : Live Gpu) :
    (variant p t pass info).wp (fun native u => VariantEnd p t pass info s (.ok native) u)
      (fun e u => VariantEnd p t pass info s (.error e) u) s := by
  rw [variant, wp_bind, wp_get]
  cases found : (s.platform.variantsOf p.id).get? pass with
  | some native => exact .kept found
  | none =>
    simp only [Gpu.request, wp_bind, wp_require, decide_eq_true_eq, decide_eq_false_iff_not,
      Live.wp_self, Live.wp_request, Live.wp_onPlatform, wp_modify, wp_pure]
    refine ⟨fun count => ?_, fun count => .refused found count⟩
    exact .built found count (Platform.builds_keepVariant _ _ _ _ _)

/-- All that can come of binding a raster pipeline. Unless it is bound, nothing is changed. -/
inductive RasterEnd (p : Pipeline) (t : RasterTemplate) (r : Recording) :
    Except Fault Unit → Recording → Prop where
  | finalized (ended : r.list.finalized = true) :
    RasterEnd p t r (.error (.assertion .listFinalized)) r
  | outside (outside : r.list.target = none) :
    RasterEnd p t r (.error (.device (.precondition (.rasterOutsidePass p.name)))) r
  | unknown {target : RenderTarget} (inside : r.list.target = some target)
    (missing : r.live.device.passes.get? target.pass = none) :
    RasterEnd p t r (.error (.device (.precondition (.unknownRenderPass target.pass)))) r
  | refused {target : RenderTarget} {info : RenderPassInfo} {e : Fault}
    (inside : r.list.target = some target)
    (known : r.live.device.passes.get? target.pass = some info)
    (refused : VariantEnd p t target.pass info r.live (.error e) r.live) :
    RasterEnd p t r (.error e) r
  | bound {target : RenderTarget} {info : RenderPassInfo} {native : NativePipeline} {u : Live Gpu}
    (recording : r.list.finalized = false) (inside : r.list.target = some target)
    (known : r.live.device.passes.get? target.pass = some info)
    (ended : VariantEnd p t target.pass info r.live (.ok native) u) :
    RasterEnd p t r (.ok ()) ⟨u, { r.list with
      commands := (r.list.commands.push (.renderPipeline native)).push (.viewport target.area)
      bound := some ⟨true, p.sets⟩ }⟩

theorem VariantEnd.unchanged {s u : Live Gpu} {e : Fault}
    (ended : VariantEnd p t pass info s (.error e) u) : u = s := by
  cases ended
  rfl

theorem bindRaster_ends (kind : p.kind = .raster t) (r : Recording) :
    (bindPipeline p).wp (fun _ u => RasterEnd p t r (.ok ()) u)
      (fun e u => RasterEnd p t r (.error e) u) r := by
  have graphics : p.isGraphics = true := by rw [Pipeline.isGraphics, kind]
  simp only [bindPipeline, kind, graphics, Gpu.renderPassInfo, wp_bind, wp_checkRecording,
    wp_current, wp_orRefuse, wp_onDevice, Live.wp_self, wp_push, wp_updateList]
  refine ⟨fun recording => ⟨fun target inside => ⟨fun info known => ?_, fun missing => ?_⟩,
    fun outside => ?_⟩, fun ended => .finalized ended⟩
  · refine (variant_ends p t target.pass info r.live).mono (fun native u ended => ?_) ?_
    · exact .bound recording inside known ended
    · intro e u ended
      obtain rfl := ended.unchanged
      exact .refused inside known ended
  · exact .unknown inside missing
  · exact .outside outside

end Recording

/-! ## What leaves all variants alone -/

namespace Gpu

/-- No native pipeline was built for rendering, and no variant came or went. -/
def KeepsVariants (s t : Live Gpu) : Prop := s.platform.KeepsVariants t.platform

instance : Evolution KeepsVariants where
  refl s := Evolution.refl s.platform
  trans first second := Evolution.trans (R := Platform.KeepsVariants) first second

instance : ImageFrame KeepsVariants where
  toFrame := .ofHeld (fun _ _ => Evolution.refl (R := Platform.KeepsVariants) _)
    (fun made => made.toKeepsVariants)
    (evolves_placeholderFor
      (fun s size => (Platform.makes_makeBuffer s.device.connection .placeholder size
        s.platform).toKeepsVariants)
      fun _ _ => Evolution.refl (R := Platform.KeepsVariants) _)
  images _ := Evolution.refl (R := Platform.KeepsVariants) _

instance : MemoryFrame KeepsVariants where
  buffers _ := Evolution.refl (R := Platform.KeepsVariants) _
  works worked := worked.toKeepsVariants

instance : ListFrame KeepsVariants where
  custody _ _ := Evolution.refl (R := Platform.KeepsVariants) _
  pool _ _ := Evolution.refl (R := Platform.KeepsVariants) _
  polled {s} fence := Platform.keepsVariants_polled s.device.connection fence s.platform

end Gpu

/-- Only binding a raster pipeline builds a variant. -/
theorem Call.keepsVariants {call : Call} (plain : call.builds = false) (c : Client) :
    Gpu.KeepsVariants c.live (call.step c).2.live := by
  cases ofImages : call.ofImages with
  | false => exact call.framedPlain ofImages plain c
  | true =>
    cases call with
    | device call => exact (call.framedImage ofImages).outcome c.live
    | _ => cases ofImages

/-! ## The variants of a pipeline -/

namespace Gpu

variable {p : Pipeline} {t : RasterTemplate} {old new : List (NativePipeline × RenderPipelineDesc)}
  {bound : List CacheHandle} {s u : Live Gpu}

/-- Each variant of a pipeline is that of a render pass the pipeline was bound in, and was built for
this pass; `new` was built for rendering after `old`, and under names in order. -/
structure HasVariants (p : Pipeline) (t : RasterTemplate)
    (old new : List (NativePipeline × RenderPipelineDesc)) (bound : List CacheHandle)
    (s : Live Gpu) : Prop where
  known : p.id < s.platform.variants.length
  keys : ∀ pass, ((s.platform.variantsOf p.id).get? pass).isSome = true ↔ pass ∈ bound
  built : s.platform.renderPipelines = old ++ new
  named : (new.map (·.1.name.ordinal) ++ [s.platform.names.renderPipelines]).Pairwise (· < ·)
  each : ∀ {pass native}, (s.platform.variantsOf p.id).get? pass = some native →
    ∃ info, s.device.passes.get? pass = some info ∧ info.colorFormats.length = t.targets ∧
      (native, Recording.variantDesc p t info) ∈ new
  apart : ∀ {pass pass' native}, (s.platform.variantsOf p.id).get? pass = some native →
    (s.platform.variantsOf p.id).get? pass' = some native → pass = pass'

namespace HasVariants

/-- A pass stays behind its handle, whatever is called. -/
theorem kept (h : HasVariants p t old new bound s) (keeps : KeepsVariants s u)
    (shelves : Shelves s u) : HasVariants p t old new bound u where
  known := Nat.lt_of_lt_of_le h.known keeps.known
  keys pass := by rw [keeps.variants, h.keys]
  built := keeps.renderPipelines.trans h.built
  named := by
    rw [keeps.named]
    exact h.named
  each found := by
    rw [keeps.variants] at found
    obtain ⟨info, known, count, made⟩ := h.each found
    exact ⟨info, shelves.pass known, count, made⟩
  apart found found' := by
    rw [keeps.variants] at found found'
    exact h.apart found found'

/-- To be bound in a pass again makes no difference. -/
theorem again {pass : CacheHandle} {native : NativePipeline} (h : HasVariants p t old new bound s)
    (found : (s.platform.variantsOf p.id).get? pass = some native) :
    HasVariants p t old new (bound ++ [pass]) s := by
  have member : pass ∈ bound := (h.keys pass).1 (Option.isSome_iff_exists.2 ⟨native, found⟩)
  refine ⟨h.known, fun other => ?_, h.built, h.named, h.each, h.apart⟩
  rw [h.keys, List.mem_append, List.mem_singleton]
  exact ⟨.inl, fun here => here.elim (fun before => before) fun same => same ▸ member⟩

variable {native : NativePipeline} {desc : RenderPipelineDesc} {id : Nat} {pass : CacheHandle}
  {q : Platform}

/-- What is built is named after all that was built before. -/
theorem ascends (h : HasVariants p t old new bound s)
    (builds : s.platform.Builds native desc id pass q) :
    ((new ++ [(native, desc)]).map (·.1.name.ordinal) ++ [q.names.renderPipelines]).Pairwise
      (· < ·) := by
  rw [List.map_append, List.map_singleton, builds.ordinal, builds.named]
  refine List.pairwise_append.2 ⟨h.named, List.pairwise_singleton _ _, fun n there _ last => ?_⟩
  obtain rfl := List.mem_singleton.1 last
  rcases List.mem_append.1 there with sooner | next
  · have less := (List.pairwise_append.1 h.named).2.2 n sooner _ (List.mem_singleton_self _)
    exact Nat.lt_succ_of_lt less
  · exact List.mem_singleton.1 next ▸ Nat.lt_succ_self _

/-- A variant of another pipeline is none of this one. -/
theorem other (h : HasVariants p t old new bound s)
    (builds : s.platform.Builds native desc id pass q) (differs : p.id ≠ id) :
    HasVariants p t old (new ++ [(native, desc)]) bound { s with platform := q } where
  known := builds.known ▸ h.known
  keys pass := by rw [builds.others _ differs, h.keys]
  built := by rw [builds.renderPipelines, h.built, List.append_assoc]
  named := h.ascends builds
  each found := by
    rw [builds.others _ differs] at found
    obtain ⟨info, known, count, made⟩ := h.each found
    exact ⟨info, known, count, List.mem_append_left _ made⟩
  apart found found' := by
    rw [builds.others _ differs] at found found'
    exact h.apart found found'

/-- The first time that the pipeline is bound in a pass its variant is built. -/
theorem build {info : RenderPassInfo} (h : HasVariants p t old new bound s)
    (known : s.device.passes.get? pass = some info) (count : info.colorFormats.length = t.targets)
    (builds : s.platform.Builds native (Recording.variantDesc p t info) p.id pass q) :
    HasVariants p t old (new ++ [(native, Recording.variantDesc p t info)]) (bound ++ [pass])
      { s with platform := q } := by
  have own := builds.own h.known
  -- A name that is new is that of no variant there was.
  have fresh {other : CacheHandle} (found : (s.platform.variantsOf p.id).get? other = some native) :
      False := by
    obtain ⟨_, -, -, made⟩ := h.each found
    have less := (List.pairwise_append.1 h.named).2.2 _ (List.mem_map_of_mem made) _
      (List.mem_singleton_self _)
    exact Nat.ne_of_lt less builds.ordinal
  refine ⟨builds.known ▸ h.known, fun other => ?_, ?_, h.ascends builds, fun found => ?_,
    fun found found' => ?_⟩
  · rw [own, SortedMap.get?_insert, List.mem_append, List.mem_singleton, ← h.keys]
    by_cases same : other = pass
    · simp [same]
    · simp [same, Ranked.rank_eq_iff]
  · rw [builds.renderPipelines, h.built, List.append_assoc]
  · rw [own] at found
    rcases SortedMap.get?_of_insert found with ⟨rfl, rfl⟩ | before
    · exact ⟨info, known, count, List.mem_append_right _ (List.mem_singleton_self _)⟩
    · obtain ⟨info, known, count, made⟩ := h.each before
      exact ⟨info, known, count, List.mem_append_left _ made⟩
  · rw [own] at found found'
    rcases SortedMap.get?_of_insert found with ⟨rfl, rfl⟩ | before
    · rcases SortedMap.get?_of_insert found' with ⟨rfl, -⟩ | before'
      · rfl
      · exact (fresh before').elim
    · rcases SortedMap.get?_of_insert found' with ⟨-, rfl⟩ | before'
      · exact (fresh before).elim
      · exact h.apart before before'

end HasVariants

/-- A raster pipeline that was just made for a request, with the template it got. -/
structure RasterMade (request : RasterRequest) (name : String) (p : Pipeline) (t : RasterTemplate)
    (s : Live Gpu) : Prop where
  named : p.name = name
  kind : p.kind = .raster t
  once : (request.sources.map (·.stage)).Nodup
  follows : t.Follows request name
  links : s.device.Links name p.sets p.layout
  noVariants : HasVariants p t s.platform.renderPipelines [] [] s

/-- A raster pipeline has no variants when it is made. -/
theorem wp_createRasterPipeline_made (request : RasterRequest) (name : String) (s : Live Gpu) :
    (createRasterPipeline request name).wp (fun p u => ∃ t, RasterMade request name p t u)
      (fun _ _ => True) s := by
  unfold createRasterPipeline
  split
  · exact trivial
  · refine (wp_bind _ _).2 ((RasterStages.wp_addAll name {} request.sources s).mono ?_
      fun _ _ _ => trivial)
    rintro stages v ⟨taken, -, staged⟩
    simp only [wp_bind, wp_orRefuse, implies_true, and_true]
    intro vertex drawn
    refine (wp_pipelineLayout _ name v).mono (fun made w linked => ?_) fun _ _ _ => trivial
    simp only [wp_checked, Live.wp_request, wp_pure, implies_true, and_true]
    intro buffers read
    have ofStage (stage : Stage) : stages.stage? stage =
        (sourceOf request.sources stage).map (nativeStage name) := by
      rw [staged]
      cases stage <;> exact Option.or_none
    -- The id of the pipeline is new, so nothing is kept for it.
    have empty (pass : CacheHandle) : ((w.platform.registerPipeline.2).variantsOf
        w.platform.registerPipeline.1).get? pass = none := by
      simp [Platform.variantsOf, Platform.registerPipeline, List.getD_eq_getElem?_getD]
    refine ⟨_, rfl, rfl, taken.once, ⟨?_, ofStage .fragment, read, rfl, rfl⟩, linked.2, ?_,
      fun pass => ?_, (List.append_nil _).symm, ?_, fun found => ?_, fun found => ?_⟩
    · rw [← ofStage]
      exact drawn
    · simp [Platform.registerPipeline]
    · simp [empty]
    · exact List.pairwise_singleton _ _
    · cases (empty _).symm.trans found
    · cases (empty _).symm.trans found

end Gpu

/-! ## Binding over whole runs -/

namespace Recording

open Gpu (HasVariants)

variable {p q : Pipeline} {t t' : RasterTemplate} {bound : List CacheHandle} {r u : Recording}
  {old new : List (NativePipeline × RenderPipelineDesc)} {result : Except Fault Unit}

/-- The render pass that a list is in, if a call succeeded. -/
def passOf? (r : Recording) (result : Except Fault Unit) : Option CacheHandle :=
  if result.isOk then r.list.target.map (·.pass) else none

/-- The pipeline is bound, and has a variant for the pass from then on. -/
theorem RasterEnd.hasVariants (ended : RasterEnd p t r result u)
    (h : HasVariants p t old new bound r.live) :
    ∃ new', HasVariants p t old new' (bound ++ (r.passOf? result).toList) u.live := by
  cases ended with
  | finalized | outside | unknown | refused =>
    refine ⟨new, ?_⟩
    rwa [passOf?, if_neg nofun, Option.toList_none, List.append_nil]
  | @bound target _ _ _ recording inside known ended =>
    have pass : r.passOf? (.ok ()) = some target.pass := by
      rw [passOf?, inside]
      rfl
    rw [pass, Option.toList_some]
    cases ended with
    | kept found => exact ⟨new, h.again found⟩
    | built missing count builds => exact ⟨_, h.build known count builds⟩

/-- Where a native pipeline is built, the render pass had no variant. -/
theorem RasterEnd.fresh (ended : RasterEnd p t r result u) {pass : CacheHandle}
    (inPass : r.passOf? result = some pass)
    (more : r.live.platform.renderPipelines.length < u.live.platform.renderPipelines.length) :
    (r.live.platform.variantsOf p.id).get? pass = none := by
  cases ended with
  | finalized | outside | unknown | refused => exact absurd more (Nat.lt_irrefl _)
  | @bound target _ _ _ recording inside known ended =>
    rw [passOf?, inside] at inPass
    obtain rfl : target.pass = pass := Option.some.inj inPass
    cases ended with
    | kept found => exact absurd more (Nat.lt_irrefl _)
    | built missing count builds => exact missing

/-- Binding another pipeline leaves the variants of this one alone. -/
theorem RasterEnd.others (ended : RasterEnd q t' r result u)
    (h : HasVariants p t old new bound r.live) (differs : q.id ≠ p.id) :
    ∃ new', HasVariants p t old new' bound u.live := by
  cases ended with
  | finalized | outside | unknown | refused => exact ⟨new, h⟩
  | bound recording inside known ended =>
    cases ended with
    | kept found => exact ⟨new, h⟩
    | built missing count builds => exact ⟨_, h.other builds (Ne.symm differs)⟩

end Recording

/-- The render pass in which a call binds a pipeline. -/
def Call.binds? (p : Pipeline) (call : Call) (c : Client) : Option CacheHandle :=
  match call with
  | .record i (.bindPipeline q) =>
    if q.id = p.id then
      c.lists[i]?.bind fun list => Recording.passOf? ⟨c.live, list⟩ (call.step c).1
    else none
  | _ => none

/-- The render pass for which a call has a variant of a pipeline built. -/
def Call.buildsFor? (p : Pipeline) (call : Call) (c : Client) : Option CacheHandle :=
  if c.live.platform.renderPipelines.length <
      (call.step c).2.live.platform.renderPipelines.length then call.binds? p c
  else none

namespace Client

open Gpu (HasVariants)

variable {p : Pipeline} {t : RasterTemplate} {bound : List CacheHandle} {c : Client}
  {old new : List (NativePipeline × RenderPipelineDesc)}

theorem onList_of_some {i : Nat} {list : CommandList} (found : c.lists[i]? = some list)
    (action : Action Recording Unit) :
    c.onList i action = ((action.outcome ⟨c.live, list⟩).1,
      { c with
        live := (action.outcome ⟨c.live, list⟩).2.live
        lists := c.lists.set i (action.outcome ⟨c.live, list⟩).2.list }) := by
  simp only [onList, found]

theorem bindRaster_outcome (kind : p.kind = .raster t) (r : Recording) :
    Recording.RasterEnd p t r ((Recording.bindPipeline p).outcome r).1
      ((Recording.bindPipeline p).outcome r).2 :=
  wp.outcome (P := fun o => Recording.RasterEnd p t r o.1 o.2) (Recording.bindRaster_ends kind r)

/-- A call that binds the pipeline in a pass gives it the variant of this pass, and no other call
gives it any. -/
theorem step_variants (kind : p.kind = .raster t) (h : HasVariants p t old new bound c.live)
    (call : Call) (own : ∀ i q, call = .record i (.bindPipeline q) → q.id = p.id → q = p) :
    ∃ new', HasVariants p t old new' (bound ++ (call.binds? p c).toList) (call.step c).2.live := by
  cases builds : call.builds with
  | false =>
    have none : call.binds? p c = none := by
      unfold Call.binds?
      split
      · rename_i i q
        refine if_neg fun same => ?_
        obtain rfl := own i q rfl same
        simp [Call.builds, RecordingCall.builds, Pipeline.isGraphics, kind] at builds
      · rfl
    rw [none, Option.toList_none, List.append_nil]
    exact ⟨new, h.kept (call.keepsVariants builds c) (call.framedImage (S := Gpu.Shelves) c)⟩
  | true =>
    unfold Call.builds RecordingCall.builds at builds
    split at builds
    · rename_i i call
      split at builds
      · rename_i q
        cases found : c.lists[i]? with
        | none =>
          have stays : (Call.record i (.bindPipeline q)).step c = (.ok (), c) := by
            simp only [Call.step, onList, found]
          refine ⟨new, ?_⟩
          simpa [Call.binds?, found, stays] using h
        | some list =>
          have step := onList_of_some found (Recording.bindPipeline q)
          simp only [Call.binds?, found, Option.bind_some, Call.step, RecordingCall.run, step]
          by_cases same : q.id = p.id
          · obtain rfl := own i q rfl same
            rw [if_pos rfl]
            exact (bindRaster_outcome kind ⟨c.live, list⟩).hasVariants h
          · rw [if_neg same, Option.toList_none, List.append_nil]
            cases kind' : q.kind with
            | compute => simp [Pipeline.isGraphics, kind'] at builds
            | raster t' => exact (bindRaster_outcome kind' ⟨c.live, list⟩).others h same
      · cases builds
    · cases builds

/-- The render passes in which a run binds a pipeline, in order. -/
def passesBound (p : Pipeline) : Client → List Call → List CacheHandle
  | _, [] => []
  | c, call :: calls => (call.binds? p c).toList ++ passesBound p (call.step c).2 calls

theorem run_variants (kind : p.kind = .raster t) (h : HasVariants p t old new bound c.live)
    (calls : List Call)
    (own : ∀ i q, Call.record i (.bindPipeline q) ∈ calls → q.id = p.id → q = p) :
    ∃ new', HasVariants p t old new' (bound ++ passesBound p c calls) (c.run calls).live := by
  induction calls generalizing c new bound with
  | nil => exact ⟨new, by rwa [passesBound, List.append_nil]⟩
  | cons call calls ih =>
    obtain ⟨new', next⟩ := step_variants kind h call fun i q same =>
      own i q (same ▸ List.mem_cons_self)
    obtain ⟨new'', last⟩ := ih next fun i q later => own i q (List.mem_cons_of_mem _ later)
    exact ⟨new'', by rwa [passesBound, ← List.append_assoc]⟩

/-- No variant is built for a render pass that the pipeline was bound in. -/
theorem step_fresh (kind : p.kind = .raster t) (h : HasVariants p t old new bound c.live)
    {call : Call} (own : ∀ i q, call = .record i (.bindPipeline q) → q.id = p.id → q = p)
    {pass : CacheHandle} (builds : call.buildsFor? p c = some pass) : pass ∉ bound := by
  obtain ⟨more, binds⟩ := Option.ite_none_right_eq_some.1 builds
  unfold Call.binds? at binds
  split at binds
  · rename_i i q
    obtain ⟨same, inList⟩ := Option.ite_none_right_eq_some.1 binds
    obtain rfl := own i q rfl same
    obtain ⟨list, found, inPass⟩ := Option.bind_eq_some_iff.1 inList
    have step : (Call.record i (.bindPipeline q)).step c = _ :=
      onList_of_some found (Recording.bindPipeline q)
    rw [step] at inPass more
    have none := (bindRaster_outcome kind ⟨c.live, list⟩).fresh inPass more
    rw [← h.keys, none]
    exact nofun
  · cases binds

/-- The render passes for which a run has variants of a pipeline built, in order. -/
def passesBuilt (p : Pipeline) : Client → List Call → List CacheHandle
  | _, [] => []
  | c, call :: calls => (call.buildsFor? p c).toList ++ passesBuilt p (call.step c).2 calls

theorem run_fresh (kind : p.kind = .raster t) (h : HasVariants p t old new bound c.live)
    (calls : List Call)
    (own : ∀ i q, Call.record i (.bindPipeline q) ∈ calls → q.id = p.id → q = p) :
    (passesBuilt p c calls).Nodup ∧ ∀ pass ∈ passesBuilt p c calls, pass ∉ bound := by
  induction calls generalizing c new bound with
  | nil => exact ⟨List.nodup_nil, List.forall_mem_nil _⟩
  | cons call calls ih =>
    have own' (i : Nat) (q : Pipeline) (same : call = .record i (.bindPipeline q)) :
        q.id = p.id → q = p := own i q (same ▸ List.mem_cons_self)
    obtain ⟨new', next⟩ := step_variants kind h call own'
    obtain ⟨once, apart⟩ := ih next fun i q later => own i q (List.mem_cons_of_mem _ later)
    have rest (pass : CacheHandle) (later : pass ∈ passesBuilt p (call.step c).2 calls) :
        pass ∉ bound := fun before => apart pass later (List.mem_append_left _ before)
    rw [passesBuilt]
    cases builds : call.buildsFor? p c with
    | none => exact ⟨once, rest⟩
    | some pass =>
      have binds : call.binds? p c = some pass := (Option.ite_none_right_eq_some.1 builds).2
      refine ⟨List.nodup_cons.2 ⟨fun later => apart pass later ?_, once⟩, ?_⟩
      · rw [binds]
        exact List.mem_append_right _ (List.mem_singleton_self _)
      · exact List.forall_mem_cons.2 ⟨step_fresh kind h own' builds, rest⟩

/-! ## What is recorded -/

/-- The pipeline is bound in the pass that a list is in: its variant is recorded, and the viewport
of the pass. The variant is built now or was built before, in either case for this pass. -/
structure Binds (p : Pipeline) (request : Gpu.RasterRequest) (i : Nat) (list : CommandList)
    (target : RenderTarget) (info : RenderPassInfo) (native : NativePipeline) (c c' : Client) :
    Prop where
  list : c'.lists[i]? = some { list with
    commands := (list.commands.push (.renderPipeline native)).push (.viewport target.area)
    bound := some ⟨true, p.sets⟩ }
  variant : (c'.live.platform.variantsOf p.id).get? target.pass = some native
  built : ∃ desc, p.BuiltFor request info desc ∧ (native, desc) ∈ c'.live.platform.renderPipelines
  kept : (c.live.platform.variantsOf p.id).get? target.pass ≠ none →
    c'.live.platform.renderPipelines = c.live.platform.renderPipelines
  once : (c.live.platform.variantsOf p.id).get? target.pass = none →
    ∃ desc, p.BuiltFor request info desc ∧
      c'.live.platform.renderPipelines = c.live.platform.renderPipelines ++ [(native, desc)]

/-- What comes of binding the pipeline in a list that is in a render pass. -/
structure BindLaw (p : Pipeline) (request : Gpu.RasterRequest) (c : Client) (i : Nat)
    (list : CommandList) (target : RenderTarget) (info : RenderPassInfo) : Prop where
  /-- With another number of targets it fails. -/
  refused : info.colorFormats.length ≠ request.targets.length →
    (Call.record i (.bindPipeline p)).step c =
      (.error (Recording.otherCount p request.targets.length info), c)
  bound : info.colorFormats.length = request.targets.length → ∃ native c',
    (Call.record i (.bindPipeline p)).step c = (.ok (), c') ∧
      Binds p request i list target info native c c'

theorem onList_unchanged {i : Nat} {list : CommandList} (found : c.lists[i]? = some list) :
    { c with lists := c.lists.set i list } = c := by
  obtain ⟨_, rfl⟩ := List.getElem?_eq_some_iff.1 found
  rw [List.set_getElem_self]

variable {request : Gpu.RasterRequest}

theorem bindLaw (kind : p.kind = .raster t) (follows : t.Follows request p.name)
    (h : HasVariants p t old new bound c.live) {i : Nat} {list : CommandList}
    {target : RenderTarget} {info : RenderPassInfo} (found : c.lists[i]? = some list)
    (recording : list.finalized = false) (inside : list.target = some target)
    (known : c.live.device.passes.get? target.pass = some info) :
    BindLaw p request c i list target info := by
  have step : (Call.record i (.bindPipeline p)).step c = _ :=
    onList_of_some found (Recording.bindPipeline p)
  have ended := bindRaster_outcome kind ⟨c.live, list⟩
  have targets := follows.targets
  obtain ⟨within, -⟩ := List.getElem?_eq_some_iff.1 found
  generalize (Recording.bindPipeline p).outcome ⟨c.live, list⟩ = o at step ended
  obtain ⟨result, u⟩ := o
  dsimp only at ended step
  cases ended with
  | finalized ended => cases recording.symm.trans ended
  | outside outside => cases inside.symm.trans outside
  | unknown inside' missing =>
    cases inside.symm.trans inside'
    cases known.symm.trans missing
  | refused inside' known' refused =>
    cases inside.symm.trans inside'
    cases known.symm.trans known'
    cases refused with
    | refused missing count =>
      rw [targets] at count
      refine ⟨fun _ => ?_, fun same => absurd same count⟩
      rw [step, onList_unchanged found, targets]
  | @bound _ _ native _ _ inside' known' ended =>
    cases inside.symm.trans inside'
    cases known.symm.trans known'
    cases ended with
    | kept kept =>
      -- The pass that it was built for is the one that the list is in: both are behind the handle.
      obtain ⟨info', known', count, made⟩ := h.each kept
      cases known.symm.trans known'
      rw [targets] at count
      refine ⟨fun differs => absurd count differs, fun _ =>
        ⟨native, _, step, ?_, kept, ⟨_, follows.builtFor info, ?_⟩, fun _ => rfl, fun none => ?_⟩⟩
      · exact List.getElem?_set_self within
      · exact h.built ▸ List.mem_append_right _ made
      · cases none.symm.trans kept
    | built missing count builds =>
      rw [targets] at count
      refine ⟨fun differs => absurd count differs, fun _ =>
        ⟨native, _, step, ?_, ?_, ⟨_, follows.builtFor info, ?_⟩, fun kept => ?_, fun _ => ?_⟩⟩
      · exact List.getElem?_set_self within
      · rw [builds.own h.known]
        exact SortedMap.get?_insert_self ..
      · rw [builds.renderPipelines]
        exact List.mem_append_right _ (List.mem_singleton_self _)
      · exact absurd missing kept
      · exact ⟨_, follows.builtFor info, builds.renderPipelines⟩

/-- What holds of the variants of a pipeline after a run. -/
structure VariantLaw (p : Pipeline) (request : Gpu.RasterRequest) (start : Client)
    (calls : List Call) : Prop where
  /-- There is one for each render pass that it was bound in. -/
  passes : ∀ pass, (((start.run calls).live.platform.variantsOf p.id).get? pass).isSome = true ↔
    pass ∈ passesBound p start calls
  count : ((start.run calls).live.platform.variantsOf p.id).size =
    (passesBound p start calls).dedup.length
  /-- Each was built once since the pipeline was made, for the pass that it is kept for. -/
  built : ∃ since, (start.run calls).live.platform.renderPipelines =
      start.live.platform.renderPipelines ++ since ∧ (since.map (·.1)).Nodup ∧
    ∀ pass native, ((start.run calls).live.platform.variantsOf p.id).get? pass = some native →
      ∃ info desc, (start.run calls).live.device.passes.get? pass = some info ∧
        p.BuiltFor request info desc ∧ (native, desc) ∈ since
  /-- For no pass one is built twice. -/
  once : (passesBuilt p start calls).Nodup
  /-- That of one pass is not that of another. -/
  apart : ∀ pass pass' native,
    ((start.run calls).live.platform.variantsOf p.id).get? pass = some native →
      ((start.run calls).live.platform.variantsOf p.id).get? pass' = some native → pass = pass'
  /-- It can be bound in any pass with its number of targets, whichever pass a list is in. -/
  binds : ∀ i list target, (start.run calls).lists[i]? = some list → list.finalized = false →
    list.target = some target →
      ∃ info, (start.run calls).live.device.passes.get? target.pass = some info ∧
        BindLaw p request (start.run calls) i list target info
  /-- Where it cannot be bound, nothing is changed. -/
  fails : ∀ i e, ((Call.record i (.bindPipeline p)).step (start.run calls)).1 = .error e →
    ((Call.record i (.bindPipeline p)).step (start.run calls)).2 = start.run calls
  /-- The layout that they are built with stays that of the pipeline's sets. -/
  links : (start.run calls).live.device.Links p.name p.sets p.layout

theorem bind_fails (kind : p.kind = .raster t) {i : Nat} {e : Fault}
    (failed : ((Call.record i (.bindPipeline p)).step c).1 = .error e) :
    ((Call.record i (.bindPipeline p)).step c).2 = c := by
  cases found : c.lists[i]? with
  | none => simp only [Call.step, onList, found]
  | some list =>
    have step : (Call.record i (.bindPipeline p)).step c = _ :=
      onList_of_some found (Recording.bindPipeline p)
    have ended := bindRaster_outcome kind ⟨c.live, list⟩
    rw [step] at failed ⊢
    generalize (Recording.bindPipeline p).outcome ⟨c.live, list⟩ = o at ended failed ⊢
    obtain ⟨result, u⟩ := o
    cases ended with
    | finalized | outside | unknown | refused => exact onList_unchanged found
    | bound => cases failed

variable {start : Client}

theorem created_variants (reachable : c.Reachable) {name : String}
    (made : c.onDevice (Gpu.createRasterPipeline request name) = (.ok p, start)) :
    start.Inside ∧ ∃ t, Gpu.RasterMade request name p t start.live := by
  obtain ⟨result, rfl⟩ := Prod.mk.inj made
  have shelves : (Gpu.createRasterPipeline request name).Evolves Gpu.Shelves :=
    Gpu.framed_createRasterPipeline request name
  refine ⟨reachable.inside.subset (shelves.outcome c.live) (List.Subset.refl _), ?_⟩
  exact (Gpu.wp_createRasterPipeline_made request name c.live).ended (Prod.ext result rfl)

theorem variantLaw (made : Gpu.RasterMade request p.name p t start.live) (inside : start.Inside)
    (calls : List Call)
    (own : ∀ i q, Call.record i (.bindPipeline q) ∈ calls → q.id = p.id → q = p) :
    VariantLaw p request start calls := by
  obtain ⟨new, h⟩ := run_variants made.kind made.noVariants calls own
  rw [List.nil_append] at h
  have ascending := (List.pairwise_append.1 h.named).1
  have names : (new.map (·.1)).Nodup := by
    refine List.Nodup.of_map (·.name.ordinal) ?_
    rw [List.map_map]
    exact ascending.imp Nat.ne_of_lt
  refine ⟨h.keys, SortedMap.size_eq_of_keys h.keys, ⟨new, h.built, names, ?_⟩,
    (run_fresh made.kind made.noVariants calls own).1, fun _ _ _ => h.apart, ?_,
    fun _ _ => bind_fails made.kind, made.links.lasts (start.shelves_run calls)⟩
  · intro pass native found
    obtain ⟨info, known, -, there⟩ := h.each found
    exact ⟨info, _, known, made.follows.builtFor info, there⟩
  · intro i list target found recording within
    obtain ⟨info, known⟩ := inside.run calls list (List.mem_of_getElem? found) target within
    exact ⟨info, known, bindLaw made.kind made.follows h found recording within known⟩

/-- From when a raster pipeline is made, whatever is called: it has one variant for each render pass
that it was bound in, built from what was asked for and with the formats of that pass, and this is
what is recorded each time that it is bound there. It cannot be bound in a pass with another number
of targets. No two of its sources are for one stage. Pipelines are told apart by their ids. -/
theorem variants_of_passes (c start : Client) (reachable : c.Reachable)
    (request : Gpu.RasterRequest) (name : String) (p : Pipeline)
    (made : c.onDevice (Gpu.createRasterPipeline request name) = (.ok p, start))
    (calls : List Call)
    (own : ∀ i q, Call.record i (.bindPipeline q) ∈ calls → q.id = p.id → q = p) :
    p.name = name ∧ (request.sources.map (·.stage)).Nodup ∧ VariantLaw p request start calls := by
  obtain ⟨inside, t, made⟩ := created_variants reachable made
  obtain rfl := made.named
  exact ⟨rfl, made.once, variantLaw made inside calls own⟩

/-- A pipeline that colors one target. -/
def flat : Gpu.RasterRequest where
  sources := [⟨.module .binary ⟨[], [⟨"main", some .vertex⟩]⟩, .vertex, "main"⟩,
    ⟨.module .binary ⟨[], [⟨"main", some .fragment⟩]⟩, .fragment, "main"⟩]
  targets := [.rgba8]

/-- It is bound in a pass that clears its image, in one that does not, and in the first again. -/
def drawFlat (p : Pipeline) : List Call :=
  let draw (clear : Bool) : List Call :=
    [.record 0 (.beginPass ⟨0, 0, 4, 4⟩ [⟨⟨⟨0⟩, 0⟩, clear⟩] none), .record 0 (.bindPipeline p),
      .record 0 .endPass]
  [.device (.createImage .rgba8 4 4), .newList] ++ draw true ++ draw false ++ draw true

/-- The two passes differ in what they clear only, and there is a variant for each. -/
theorem variants_of_passes_flat :
    ∃ p start, (opened ⟨0⟩).onDevice (Gpu.createRasterPipeline flat "flat") = (.ok p, start) ∧
      VariantLaw p flat start (drawFlat p) ∧
      passesBound p start (drawFlat p) = [⟨0⟩, ⟨1⟩, ⟨0⟩] ∧
      ((start.run (drawFlat p)).live.platform.variantsOf p.id).size = 2 := by
  have drawn :
      let made := (opened ⟨0⟩).onDevice (Gpu.createRasterPipeline flat "flat")
      made.1.toOption.map (fun p => passesBound p made.2 (drawFlat p)) =
        some [⟨0⟩, ⟨1⟩, ⟨0⟩] := by decide +kernel
  generalize made : (opened ⟨0⟩).onDevice (Gpu.createRasterPipeline flat "flat") = o at drawn
  obtain ⟨result, start⟩ := o
  cases result with
  | error e => cases drawn
  | ok p =>
    have own (i : Nat) (q : Pipeline) (bound : Call.record i (.bindPipeline q) ∈ drawFlat p)
        (_ : q.id = p.id) : q = p := by
      have same : i = 0 ∧ q = p := by simpa [drawFlat] using bound
      exact same.2
    have reachable : (opened ⟨0⟩).Reachable := ⟨_, fresh_opened ⟨0⟩, [], rfl⟩
    obtain ⟨-, -, law⟩ :=
      variants_of_passes _ start reachable flat "flat" p made (drawFlat p) own
    have passes : passesBound p start (drawFlat p) = [⟨0⟩, ⟨1⟩, ⟨0⟩] := Option.some.inj drawn
    exact ⟨p, start, rfl, law, passes, by rw [law.count, passes]; rfl⟩

end Client

end DeviceLayer
