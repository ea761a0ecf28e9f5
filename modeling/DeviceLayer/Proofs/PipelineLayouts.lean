import DeviceLayer.Proofs.LockedBinders
import DeviceLayer.Proofs.SharedObjects

/-!
# How pipelines are laid out

The buffers that the stages of a pipeline expect make its binder: one slot for each place, empty,
with the smallest size that the shader which was entered last accepts there. The pipeline has one
bind group index for each set up to the highest that has a buffer, and its device a native layout
for each of them.

* `Reflection.buffers`, `Reflection.slot?` — the buffers that stages expect, and what is entered
  for one place.
* `lockedBinder_slot?` — the binder of a pipeline.
* `Pipeline.Laid` — how a pipeline is laid out on a device.
* `Gpu.Links` — the layout that is given to the graphics library.
* `Client.Makes.laid` — so is every pipeline that a device makes.
-/

namespace DeviceLayer

open DeviceLayer.Action

/-! ## The binder of stages -/

namespace Reflection

/-- The buffers that a stage expects, in the order in which they are entered. -/
def ownBuffers (r : Reflection) : List (ReflectedBinding × ResourceKind) :=
  r.bindings.filterMap fun b => b.type.bufferKind?.map (b, ·)

/-- The buffers that stages expect, in the order in which they are entered. -/
def buffers (stages : List Reflection) : List (ReflectedBinding × ResourceKind) :=
  stages.flatMap ownBuffers

/-- An empty slot for a buffer, with the smallest size that is accepted. -/
def emptySlot (e : ReflectedBinding × ResourceKind) : Binding := ⟨e.2, .null, e.1.minSize⟩

/-- What is entered for a place: of several buffers the last. -/
def slot? (stages : List Reflection) (set binding : UInt32) : Option Binding :=
  ((buffers stages).reverse.find? fun e => decide (e.1.set = set ∧ e.1.binding = binding)).map
    emptySlot

end Reflection

namespace Binder

/-- The binder with a slot for a buffer. -/
def enter (b : Binder) (e : ReflectedBinding × ResourceKind) : Binder :=
  b.putSlot e.1.set e.1.binding (Reflection.emptySlot e)

theorem locked_foldl_enter (b : Binder) (entries : List (ReflectedBinding × ResourceKind)) :
    (entries.foldl enter b).locked = b.locked := by
  induction entries generalizing b with
  | nil => rfl
  | cons e entries ih => exact ih (b.enter e)

theorem slot?_foldl_enter (b : Binder) (entries : List (ReflectedBinding × ResourceKind))
    (set binding : UInt32) :
    (entries.foldl enter b).slot? set binding =
      ((entries.reverse.find? fun e => decide (e.1.set = set ∧ e.1.binding = binding)).map
        Reflection.emptySlot).or (b.slot? set binding) := by
  induction entries generalizing b with
  | nil => rfl
  | cons e entries ih =>
    rw [List.foldl_cons, ih, enter, slot?_putSlot, List.reverse_cons, List.find?_append]
    -- An entry counts only if no later one is for the same place.
    cases entries.reverse.find? fun e => decide (e.1.set = set ∧ e.1.binding = binding) with
    | some later => rfl
    | none =>
      by_cases here : set = e.1.set ∧ binding = e.1.binding
      · obtain ⟨rfl, rfl⟩ := here
        simp
      · have other : ¬(e.1.set = set ∧ e.1.binding = binding) := fun same =>
          here ⟨same.1.symm, same.2.symm⟩
        simp [here, other]

/-- The sets of a binder are those that some slot was entered for. -/
theorem isSome_sets_foldl_enter (b : Binder) (entries : List (ReflectedBinding × ResourceKind))
    (set : UInt32) :
    ((entries.foldl enter b).sets.get? set).isSome = true ↔
      (∃ e ∈ entries, e.1.set = set) ∨ (b.sets.get? set).isSome = true := by
  induction entries generalizing b with
  | nil => simp
  | cons e entries ih =>
    rw [List.foldl_cons, ih, List.exists_mem_cons_iff, enter, putSlot]
    by_cases here : set = e.1.set
    · simp [here, SortedMap.get?_insert_self]
    · simp [Ne.symm here, SortedMap.get?_insert_of_ne _ _ here]

end Binder

theorem Reflection.outcome_register (r : Reflection) {b : Binder} (isOpen : b.locked = false) :
    r.register.outcome b = (.ok (), r.ownBuffers.foldl Binder.enter b) := by
  let next (b : Binder) (slot : ReflectedBinding) : Binder :=
    slot.type.bufferKind?.elim b fun kind => b.enter (slot, kind)
  refine (outcome_forM (I := fun b : Binder => b.locked = false) (g := next)
    (fun b slot isOpen => ?_) isOpen r.bindings).1.trans ?_
  · cases h : slot.type.bufferKind? with
    | none => exact ⟨by simp [next, h]; rfl, by simpa [next, h]⟩
    | some kind =>
      simp only [next, h, Option.elim_some, Binder.bindSlot_outcome]
      rw [Binder.bind, if_neg (by simp [isOpen])]
      exact ⟨rfl, isOpen⟩
  · rw [ownBuffers, List.foldl_filterMap]
    congr
    funext b slot
    cases h : slot.type.bufferKind? with
    | none => simp [next, h]
    | some kind => simp [next, h]

theorem lockedBinder_eq (stages : List Reflection) :
    lockedBinder stages = ((Reflection.buffers stages).foldl Binder.enter {}).lock := by
  have entered := outcome_forM (I := fun b : Binder => b.locked = false)
    (g := fun b (r : Reflection) => r.ownBuffers.foldl Binder.enter b)
    (f := Reflection.register) (s := {}) ?_ rfl stages
  · rw [lockedBinder, entered.1, Reflection.buffers, List.foldl_flatMap]
  · exact fun b r isOpen =>
      ⟨r.outcome_register isOpen, (Binder.locked_foldl_enter b r.ownBuffers).trans isOpen⟩

/-- The slots of a pipeline's binder are the places that its stages expect a buffer at. -/
theorem lockedBinder_slot? (stages : List Reflection) (set binding : UInt32) :
    (lockedBinder stages).slot? set binding = Reflection.slot? stages set binding := by
  have slots := Binder.slot?_foldl_enter {} (Reflection.buffers stages) set binding
  rw [lockedBinder_eq]
  exact slots.trans (Option.or_none ..)

theorem isSome_sets_lockedBinder (stages : List Reflection) (set : UInt32) :
    ((lockedBinder stages).sets.get? set).isSome = true ↔
      ∃ e ∈ Reflection.buffers stages, e.1.set = set := by
  rw [lockedBinder_eq]
  refine (Binder.isSome_sets_foldl_enter {} _ set).trans (or_iff_left ?_)
  simp

/-- The slots of a set by their kinds are the slots of the set. -/
theorem Binder.get?_setLayout (b : Binder) (set binding : UInt32) :
    ((b.setLayout? set).getD ∅).get? binding = (b.slot? set binding).map (·.kind) := by
  rw [setLayout?, slot?]
  cases b.sets.get? set with
  | none => rfl
  | some slots => exact BindingSet.get?_layout slots binding

namespace Gpu

/-- The indices of a binder go up to its highest set. -/
theorem lt_groupCount {b : Binder} {n : Nat} (counted : groupCount b = .ok n) (i : Nat) :
    i < n ↔ ∃ set, (b.sets.get? set).isSome = true ∧ i ≤ set.toNat := by
  have known (set : UInt32) : (b.sets.get? set).isSome = true ↔ set ∈ b.sets.keys := by
    rw [Option.isSome_iff_exists]
    simp only [SortedMap.get?_eq_some_iff]
    simp [SortedMap.keys, SortedMap.toList]
  simp only [known]
  unfold groupCount at counted
  cases highest : b.sets.keys.getLast? with
  | none =>
    rw [highest] at counted
    cases counted
    simp [List.getLast?_eq_none_iff.1 highest]
  | some last =>
    rw [highest] at counted
    have whole : n = last.toNat + 1 := by
      by_cases most : last = 0xFFFFFFFF
      · simp [most] at counted
      · simpa [most] using counted.symm
    -- The sets are kept in ascending order, so that none is above the last one.
    obtain ⟨sooner, keys⟩ := List.getLast?_eq_some_iff.1 highest
    have ascending : b.sets.keys.Pairwise fun x y => Ranked.rank x < Ranked.rank y :=
      List.pairwise_map.2 b.sets.sorted
    rw [keys] at ascending ⊢
    rw [whole, Nat.lt_succ_iff]
    constructor
    · exact fun below => ⟨last, by simp, below⟩
    · rintro ⟨set, member, below⟩
      rcases List.mem_append.1 member with before | same
      · have less := (List.pairwise_append.1 ascending).2.2 set before last (by simp)
        exact Nat.le_trans below (Nat.le_of_lt (Int.ofNat_lt.1 less))
      · rwa [← List.mem_singleton.1 same]

/-- The device has a layout for the slots, and this is its handle. -/
def Lays (g : Gpu) (set : CacheHandle × SetLayout) : Prop := g.layouts.lookup set.2 = some set.1

theorem Shelves.lays {s t : Live Gpu} {set : CacheHandle × SetLayout} (step : Shelves s t)
    (lays : s.device.Lays set) : t.device.Lays set :=
  ObjectCache.lookup_of_prefix step.layouts.index lays

/-- The layouts of a binder's sets, by the index that they bind at. -/
structure LaysOut (g : Gpu) (b : Binder) (sets : List (CacheHandle × SetLayout)) : Prop where
  count : groupCount b = .ok sets.length
  slots : ∀ {i : Nat} {set : CacheHandle × SetLayout}, sets[i]? = some set →
    set.2 = (b.setLayout? (UInt32.ofNat i)).getD ∅
  lays : ∀ set ∈ sets, g.Lays set

theorem LaysOut.lasts {s t : Live Gpu} {b : Binder} {sets : List (CacheHandle × SetLayout)}
    (h : s.device.LaysOut b sets) (step : Shelves s t) : t.device.LaysOut b sets :=
  ⟨h.count, h.slots, fun set member => step.lays (h.lays set member)⟩

/-- The native layout that a pipeline is built with has the pipeline's name, and at each bind group
index the native layout of the pipeline's set. -/
structure Links (g : Gpu) (name : String) (sets : List (CacheHandle × SetLayout))
    (layout : PipelineLayout) : Prop where
  label : layout.label = name
  natives : List.Forall₂ (fun set native => (g.layouts.get? set.1).map (·.native) = some native)
    sets layout.sets

theorem Links.lasts {s t : Live Gpu} {name : String} {sets : List (CacheHandle × SetLayout)}
    {layout : PipelineLayout} (h : s.device.Links name sets layout) (step : Shelves s t) :
    t.device.Links name sets layout :=
  ⟨h.label, h.natives.imp fun _ _ shown => step.layouts.get? (fun native => native) shown⟩

theorem wp_pipelineLayout (b : Binder) (name : String) (s : Live Gpu) :
    (pipelineLayout b name).wp
      (fun made t => t.device.LaysOut b made.1 ∧ t.device.Links name made.1 made.2)
      (fun _ _ => True) s := by
  simp only [pipelineLayout, wp_bind, wp_check, Live.wp_record, wp_pure]
  refine ⟨fun count counted => ?_, fun _ _ => trivial⟩
  -- The layout that one set got must still be there when the next sets have got theirs.
  refine (wp_mapM (R := Shelves) (P := fun i (made : NativeLayout × CacheHandle × SetLayout) t =>
    made.2.2 = (b.setLayout? (UInt32.ofNat i)).getD ∅ ∧ t.device.Lays made.2 ∧
      (t.device.layouts.get? made.2.1).map (·.native) = some made.1) ?_ ?_ _).mono ?_
      fun _ _ _ => trivial
  · rintro _ _ _ _ step ⟨slots, lays, shown⟩
    exact ⟨slots, step.lays lays, step.layouts.get? (fun native => native) shown⟩
  · intro i t _
    simp only [wp_bind, wp_pure, layoutEntry, Live.wp_self, wp_orRefuse]
    refine (setLayout_ends _ t).mono (fun handle u ended => ?_) fun _ _ _ => trivial
    exact ⟨fun entry found => ⟨ended.2, trivial, ended.1, congrArg _ found⟩, fun _ => trivial⟩
  · rintro made t ⟨-, all⟩
    have length : count = made.length := List.length_range.symm.trans all.length_eq
    have each {i : Nat} {set : CacheHandle × SetLayout} (there : (made.map (·.2))[i]? = some set) :
        set.2 = (b.setLayout? (UInt32.ofNat i)).getD ∅ ∧ t.device.Lays set := by
      rw [List.getElem?_map] at there
      obtain ⟨m, here, rfl⟩ := Option.map_eq_some_iff.1 there
      obtain ⟨within, rfl⟩ := List.getElem?_eq_some_iff.1 here
      obtain ⟨slots, lays, -⟩ := all.get (by rwa [List.length_range, length]) within
      exact ⟨by simpa using slots, lays⟩
    have natives : ∀ m ∈ made, (t.device.layouts.get? m.2.1).map (·.native) = some m.1 := by
      intro m member
      obtain ⟨i, within, rfl⟩ := List.getElem_of_mem member
      exact (all.get (by rwa [List.length_range, length]) within).2.2
    refine ⟨⟨by rw [List.length_map, ← length, counted], fun there => (each there).1, ?_⟩, rfl, ?_⟩
    · intro set member
      obtain ⟨i, there⟩ := List.getElem?_of_mem member
      exact (each there).2
    · rw [List.forall₂_map_left_iff, List.forall₂_map_right_iff]
      exact List.forall₂_same.2 natives

end Gpu

/-! ## Pipelines -/

/-- The pipeline has the binder of its stages, and the device the layouts of its sets. -/
structure Pipeline.Laid (p : Pipeline) (stages : List Reflection) (g : Gpu) : Prop where
  binder : p.binder = lockedBinder stages
  sets : g.LaysOut p.binder p.sets

namespace Gpu

theorem wp_createComputePipeline (source : ShaderSource) (name : String) (s : Live Gpu) :
    (createComputePipeline source name).wp
      (fun p t => ∃ stages, [source].mapM ShaderSource.reflectStage = .ok stages ∧
        p.Laid stages t.device)
      (fun _ _ => True) s := by
  simp only [createComputePipeline, shaderModule, request, wp_bind, wp_require, wp_check,
    Live.wp_record, Live.wp_self, Live.wp_request, wp_pure, implies_true, and_true]
  intro _ r reflected
  refine (wp_pipelineLayout _ name s).mono (fun made t linked => ?_) fun _ _ _ => trivial
  exact ⟨[r], by simp [reflected], rfl, linked.1⟩

/-- Every source that is taken in adds what it reflects. -/
theorem wp_addStages (name : String) (sources : List ShaderSource) (stages : RasterStages)
    (s : Live Gpu) :
    (sources.foldlM (RasterStages.add name) stages).wp
      (fun all _ => ∃ rs, sources.mapM ShaderSource.reflectStage = .ok rs ∧
        all.reflections = stages.reflections ++ rs)
      (fun _ _ => True) s := by
  induction sources generalizing stages s with
  | nil => exact ⟨[], rfl, (List.append_nil _).symm⟩
  | cons source sources ih =>
    rw [List.foldlM_cons, wp_bind]
    have added : (stages.add name source).wp
        (fun next _ => ∃ r, source.reflectStage = .ok r ∧
          next.reflections = stages.reflections ++ [r])
        (fun _ _ => True) s := by
      unfold RasterStages.add
      cases source.stage <;>
        simp +contextual [shaderModule]
    refine added.mono (fun next t one => ?_) fun _ _ _ => trivial
    obtain ⟨r, reflected, reflections⟩ := one
    refine (ih next t).mono (fun all u rest => ?_) fun _ _ _ => trivial
    obtain ⟨rs, others, all'⟩ := rest
    exact ⟨r :: rs, by simp [reflected, others]; rfl, by simp [all', reflections]⟩

theorem wp_createRasterPipeline (request : RasterRequest) (name : String) (s : Live Gpu) :
    (createRasterPipeline request name).wp
      (fun p t => ∃ stages, request.sources.mapM ShaderSource.reflectStage = .ok stages ∧
        p.Laid stages t.device)
      (fun _ _ => True) s := by
  unfold createRasterPipeline
  split
  · exact trivial
  · refine (wp_bind _ _).2 ((wp_addStages name request.sources {} s).mono ?_ fun _ _ _ => trivial)
    rintro all t ⟨stages, reflected, reflections⟩
    simp only [wp_bind, wp_orRefuse, implies_true, and_true]
    intro entry _
    refine (wp_pipelineLayout _ name t).mono (fun made u linked => ?_) fun _ _ _ => trivial
    simp only [wp_checked, Live.wp_request, wp_pure, implies_true, and_true]
    intro buffers _
    rw [List.nil_append] at reflections
    exact ⟨stages, reflected, by simp [reflections], linked.1⟩

end Gpu

namespace Client

/-- A client has its device make a pipeline from sources. -/
inductive Makes (c : Client) : List ShaderSource → Pipeline → Client → Prop where
  | compute {source : ShaderSource} {name : String} {p : Pipeline} {c' : Client}
    (made : c.onDevice (Gpu.createComputePipeline source name) = (.ok p, c')) :
    c.Makes [source] p c'
  | raster {request : Gpu.RasterRequest} {name : String} {p : Pipeline} {c' : Client}
    (made : c.onDevice (Gpu.createRasterPipeline request name) = (.ok p, c')) :
    c.Makes request.sources p c'

/-- A pipeline has the binder and the layouts that its sources ask for, and its device has these
layouts, whatever is called afterwards. -/
theorem Makes.laid {c c' : Client} {sources : List ShaderSource} {p : Pipeline}
    (made : c.Makes sources p c') (calls : List Call) :
    ∃ stages, sources.mapM ShaderSource.reflectStage = .ok stages ∧
      p.Laid stages (c'.run calls).live.device := by
  have atFirst : ∃ stages, sources.mapM ShaderSource.reflectStage = .ok stages ∧
      p.Laid stages c'.live.device := by
    cases made with
    | compute made =>
      obtain ⟨result, rfl⟩ := Prod.mk.inj made
      exact (Gpu.wp_createComputePipeline _ _ c.live).ended (Prod.ext result rfl)
    | raster made =>
      obtain ⟨result, rfl⟩ := Prod.mk.inj made
      exact (Gpu.wp_createRasterPipeline _ _ c.live).ended (Prod.ext result rfl)
  obtain ⟨stages, reflected, laid⟩ := atFirst
  exact ⟨stages, reflected, laid.binder, laid.sets.lasts (c'.shelves_run calls)⟩

/-- To make a pipeline is a call of the client. -/
theorem Makes.reachable {c c' : Client} {sources : List ShaderSource} {p : Pipeline}
    (made : c.Makes sources p c') (reachable : c.Reachable) : c'.Reachable := by
  cases made with
  | @compute source name _ _ made =>
    have called := reachable.after [.device (.computePipeline source name)]
    obtain ⟨-, rfl⟩ := Prod.mk.inj made
    simpa [run, Call.step, DeviceCall.run, onDevice, outcome_discard] using called
  | @raster request name _ _ made =>
    have called := reachable.after [.device (.rasterPipeline request name)]
    obtain ⟨-, rfl⟩ := Prod.mk.inj made
    simpa [run, Call.step, DeviceCall.run, onDevice, outcome_discard] using called

end Client

end DeviceLayer
