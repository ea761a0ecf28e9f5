import DeviceLayer.Proofs.BoundGroups
import DeviceLayer.Proofs.RasterRequests

/-!
# Stages that share slots

The stages of a pipeline are entered into one binder, one after the other, and of several buffers
for one place the last counts. So the binder has a slot wherever some stage expects a buffer, but
what the slot is and how many bytes it asks for is up to that last stage, and the order of the
stages shows wherever they tell different things of one place.

* `Reflection.Agree` — stages do not tell different things of one place.
* `lockedBinder_eq_iff_agree` — then, and only then, their order does not show in the binder.
* `stages_merged` — the binder of stages in any order.
* `later_stage_counts` — a later stage that accepts less.
-/

namespace DeviceLayer

open DeviceLayer.Action

namespace Reflection

variable {β : Type} {see : Binding → β} {stages stages' : List Reflection} {set n : UInt32}
  {slot : Binding} {r : Reflection}

/-! ## Stage by stage -/

theorem slot?_append (stages stages' : List Reflection) (set n : UInt32) :
    slot? (stages ++ stages') set n = (slot? stages' set n).or (slot? stages set n) := by
  simp only [slot?, buffers, List.flatMap_append, List.reverse_append, List.find?_append,
    Option.map_or]

theorem slot?_concat (stages : List Reflection) (r : Reflection) (set n : UInt32) :
    slot? (stages ++ [r]) set n = (slot? [r] set n).or (slot? stages set n) :=
  slot?_append stages [r] set n

theorem slot?_cons (r : Reflection) (stages : List Reflection) (set n : UInt32) :
    slot? (r :: stages) set n = (slot? stages set n).or (slot? [r] set n) :=
  slot?_append [r] stages set n

/-- What is entered for a place is what one of the stages enters there. -/
theorem exists_stage (entered : slot? stages set n = some slot) :
    ∃ r ∈ stages, slot? [r] set n = some slot := by
  induction stages with
  | nil => cases entered
  | cons r stages ih =>
    rw [slot?_cons, Option.or_eq_some_iff] at entered
    rcases entered with later | ⟨-, own⟩
    · obtain ⟨r', member, own⟩ := ih later
      exact ⟨r', List.mem_cons_of_mem _ member, own⟩
    · exact ⟨r, List.mem_cons_self, own⟩

/-- A place at which one of the stages expects a buffer has a slot. -/
theorem isSome_slot?_of_mem (member : r ∈ stages) (own : slot? [r] set n = some slot) :
    ∃ entered, slot? stages set n = some entered := by
  rw [← Option.isSome_iff_exists, isSome_slot?]
  obtain ⟨b, expected, there⟩ := (isSome_slot? [r] set n).1 (Option.isSome_iff_exists.2 ⟨_, own⟩)
  exact ⟨b, List.mem_flatMap.2 ⟨r, member, by simpa [buffers] using expected⟩, there⟩

/-- What is entered for a place is the last buffer there, with its kind and its smallest size. -/
theorem slot?_eq_some_iff : slot? stages set n = some slot ↔
    ∃ sooner e later, buffers stages = sooner ++ e :: later ∧ (e.1.set = set ∧ e.1.binding = n) ∧
      (∀ b ∈ later, ¬(b.1.set = set ∧ b.1.binding = n)) ∧ emptySlot e = slot := by
  simp only [slot?, Option.map_eq_some_iff, List.find?_eq_some_iff_append, decide_eq_true_eq]
  constructor
  · rintro ⟨e, ⟨there, later, sooner, split, others⟩, rfl⟩
    refine ⟨sooner.reverse, e, later.reverse, ?_, there, fun b member => ?_, rfl⟩
    · rw [← List.reverse_inj, split]
      simp
    · have other := others b (List.mem_reverse.1 member)
      simpa [← not_and_or] using other
  · rintro ⟨sooner, e, later, split, there, others, rfl⟩
    refine ⟨e, ⟨there, later.reverse, sooner.reverse, by simp [split], fun b member => ?_⟩, rfl⟩
    simpa [← not_and_or] using others b (List.mem_reverse.1 member)

theorem exists_buffer_iff : (∃ e ∈ buffers stages, e.1.set = set ∧ e.1.binding = n) ↔
    ∃ r ∈ stages, ∃ b ∈ r.bindings, (b.set = set ∧ b.binding = n) ∧
      (b.type = .uniformBuffer ∨ ∃ writable, b.type = .storageBuffer writable) := by
  have bufferKind (type : ReflectedType) : (∃ kind, type.bufferKind? = some kind) ↔
      type = .uniformBuffer ∨ ∃ writable, type = .storageBuffer writable := by
    rcases type with (_ | _) | _ | _ | _ | _ | _ <;> simp [ReflectedType.bufferKind?]
  simp only [buffers, ownBuffers, List.mem_flatMap, List.mem_filterMap, Option.map_eq_some_iff,
    ← bufferKind]
  constructor
  · rintro ⟨_, ⟨r, member, b, listed, kind, known, rfl⟩, there⟩
    exact ⟨r, member, b, listed, there, kind, known⟩
  · rintro ⟨r, member, b, listed, there, kind, known⟩
    exact ⟨(b, kind), ⟨r, member, b, listed, kind, known, rfl⟩, there⟩

/-! ## In any order -/

/-- Of a place at which several stages expect a buffer they all tell the same, as far as it is
looked at. -/
def Agree (see : Binding → β) (stages : List Reflection) : Prop :=
  ∀ r ∈ stages, ∀ r' ∈ stages, ∀ set n slot slot',
    slot? [r] set n = some slot → slot? [r'] set n = some slot' → see slot = see slot'

theorem Agree.of_perm (h : Agree see stages) (order : stages'.Perm stages) : Agree see stages' :=
  fun r member r' member' => h r (order.mem_iff.1 member) r' (order.mem_iff.1 member')

/-- Then each stage finds at its places what it told of them. -/
theorem Agree.slot? (h : Agree see stages) (member : r ∈ stages)
    (own : slot? [r] set n = some slot) : (slot? stages set n).map see = some (see slot) := by
  obtain ⟨entered, found⟩ := isSome_slot?_of_mem member own
  obtain ⟨r', member', own'⟩ := exists_stage found
  rw [found, Option.map_some, h r' member' r member set n entered slot own' own]

/-- The order of stages does not show if they agree, and only then. -/
theorem agree_iff (see : Binding → β) (stages : List Reflection) : Agree see stages ↔
    ∀ stages', stages'.Perm stages → ∀ set n,
      (Reflection.slot? stages' set n).map see = (Reflection.slot? stages set n).map see := by
  constructor
  · intro agree stages' order set n
    cases found : Reflection.slot? stages set n with
    | some slot =>
      obtain ⟨r, member, own⟩ := exists_stage found
      rw [(agree.of_perm order).slot? (order.mem_iff.2 member) own, Option.map_some]
    | none =>
      cases found' : Reflection.slot? stages' set n with
      | none => rfl
      | some slot =>
        obtain ⟨r, member, own⟩ := exists_stage found'
        obtain ⟨_, there⟩ := isSome_slot?_of_mem (order.mem_iff.1 member) own
        rw [found] at there
        cases there
  · intro same r member r' member' set n slot slot' own own'
    -- Each of the two can be made the last one.
    have last {r : Reflection} {slot : Binding} (member : r ∈ stages)
        (own : Reflection.slot? [r] set n = some slot) :
        some (see slot) = (Reflection.slot? stages set n).map see := by
      obtain ⟨before, after, rfl⟩ := List.append_of_mem member
      have order : ((before ++ after) ++ [r]).Perm (before ++ r :: after) :=
        (List.perm_append_singleton r _).trans List.perm_middle.symm
      rw [← same _ order set n, slot?_concat, own]
      rfl
    exact Option.some.inj ((last member own).trans (last member' own').symm)

end Reflection

/-! ## Binders in any order -/

section Binders

variable {β : Type} {stages stages' : List Reflection}

theorem isSome_sets_iff_slot? (stages : List Reflection) (set : UInt32) :
    ((lockedBinder stages).sets.get? set).isSome = true ↔
      ∃ n, (Reflection.slot? stages set n).isSome = true := by
  rw [isSome_sets_lockedBinder]
  simp only [Reflection.isSome_slot?]
  constructor
  · rintro ⟨b, member, there⟩
    exact ⟨_, b, member, there, rfl⟩
  · rintro ⟨n, b, member, there, -⟩
    exact ⟨b, member, there⟩

/-- What is looked at in the sets of a binder is what is looked at in its slots. -/
theorem mapValues_sets_lockedBinder (see : Binding → β) (same : ∀ set n,
    (Reflection.slot? stages' set n).map see = (Reflection.slot? stages set n).map see)
    (set : UInt32) :
    ((lockedBinder stages').sets.get? set).map (·.mapValues see) =
      ((lockedBinder stages).sets.get? set).map (·.mapValues see) := by
  have known : ((lockedBinder stages').sets.get? set).isSome = true ↔
      ((lockedBinder stages).sets.get? set).isSome = true := by
    simp only [isSome_sets_iff_slot?]
    refine exists_congr fun n => ?_
    rw [← Option.isSome_map (f := see), same, Option.isSome_map]
  cases found' : (lockedBinder stages').sets.get? set with
  | none =>
    cases found : (lockedBinder stages).sets.get? set with
    | none => rfl
    | some slots => simp [found, found'] at known
  | some slots' =>
    cases found : (lockedBinder stages).sets.get? set with
    | none => simp [found, found'] at known
    | some slots =>
      refine congrArg some (SortedMap.ext_get? fun n => ?_)
      have slot := same set n
      rwa [← lockedBinder_slot?, ← lockedBinder_slot?, Binder.slot?, Binder.slot?, found, found',
        Option.bind_some, Option.bind_some, ← SortedMap.get?_mapValues,
        ← SortedMap.get?_mapValues] at slot

/-- Entering buffers changes the sets of a binder at most. -/
theorem Binder.foldl_enter_eq (b : Binder) (entries : List (ReflectedBinding × ResourceKind)) :
    entries.foldl Binder.enter b = { b with sets := (entries.foldl Binder.enter b).sets } := by
  induction entries generalizing b with
  | nil => rfl
  | cons e entries ih => exact ih (b.enter e)

theorem lockedBinder_ext
    (same : ∀ set n, Reflection.slot? stages' set n = Reflection.slot? stages set n) :
    lockedBinder stages' = lockedBinder stages := by
  have sets : (lockedBinder stages').sets = (lockedBinder stages).sets := by
    refine SortedMap.ext_get? fun set => ?_
    have whole (m : BindingSet) : m.mapValues (fun slot => slot) = m :=
      SortedMap.ext_get? fun n => by simp
    have mapped := mapValues_sets_lockedBinder (fun slot => slot)
      (fun set n => congrArg _ (same set n)) set
    simpa [whole] using mapped
  -- Locking takes nothing but the sets from the binder that was entered.
  rw [lockedBinder_eq, lockedBinder_eq] at sets ⊢
  rw [Binder.foldl_enter_eq, Binder.foldl_enter_eq {} (Reflection.buffers stages)]
  exact congrArg (fun sets => Binder.lock { sets }) sets

/-- The binder of stages is the same in any order if they agree in kinds and sizes, and only
then. -/
theorem lockedBinder_eq_iff_agree (stages : List Reflection) :
    (∀ stages', stages'.Perm stages → lockedBinder stages' = lockedBinder stages) ↔
      Reflection.Agree (fun slot => slot) stages := by
  rw [Reflection.agree_iff]
  refine forall₂_congr fun stages' _ => ⟨fun same set n => ?_, fun same => ?_⟩
  · rw [← lockedBinder_slot?, ← lockedBinder_slot?, same]
  · exact lockedBinder_ext fun set n => by simpa using same set n

/-- Its layouts are the same in any order if the stages agree in kinds, and only then. -/
theorem setLayout?_eq_iff_agree (stages : List Reflection) :
    (∀ stages', stages'.Perm stages → ∀ set,
      (lockedBinder stages').setLayout? set = (lockedBinder stages).setLayout? set) ↔
      Reflection.Agree (·.kind) stages := by
  rw [Reflection.agree_iff]
  refine forall₂_congr fun stages' _ => ⟨fun same set n => ?_, mapValues_sets_lockedBinder _⟩
  rw [← lockedBinder_slot?, ← lockedBinder_slot?, ← Binder.get?_setLayout, same,
    Binder.get?_setLayout]

end Binders

/-- The binder of any stages has an empty slot wherever one of them expects a storage or uniform
buffer, and nowhere else. The slot is as the last buffer for the place asks for it, so that it is
large enough for all exactly if no sooner one asks for more. In any order of the stages the
binder has the same layouts exactly if they agree in the kinds of their slots, and it is the same
exactly if they agree in kinds and sizes. And a raster pipeline is made from its sources in any
order or in none, on any device, with the binder of its stages in this order. -/
theorem stages_merged (stages : List Reflection) :
    (∀ set n, ((lockedBinder stages).slot? set n).isSome = true ↔
      ∃ r ∈ stages, ∃ b ∈ r.bindings, (b.set = set ∧ b.binding = n) ∧
        (b.type = .uniformBuffer ∨ ∃ writable, b.type = .storageBuffer writable)) ∧
    (∀ set n slot, (lockedBinder stages).slot? set n = some slot →
      ∃ sooner e later, Reflection.buffers stages = sooner ++ e :: later ∧
        (e.1.set = set ∧ e.1.binding = n) ∧
        (∀ b ∈ later, ¬(b.1.set = set ∧ b.1.binding = n)) ∧
        slot = ⟨e.2, .null, e.1.minSize⟩ ∧
        ((∀ b ∈ Reflection.buffers stages, b.1.set = set → b.1.binding = n →
            b.1.minSize ≤ slot.size) ↔
          ∀ b ∈ sooner, b.1.set = set → b.1.binding = n → b.1.minSize ≤ e.1.minSize)) ∧
    ((∀ stages', stages'.Perm stages → ∀ set,
        (lockedBinder stages').setLayout? set = (lockedBinder stages).setLayout? set) ↔
      Reflection.Agree (·.kind) stages) ∧
    ((∀ stages', stages'.Perm stages → lockedBinder stages' = lockedBinder stages) ↔
      Reflection.Agree (fun slot => slot) stages) ∧
    ∀ (c d : Client), c.Reachable → d.Reachable → ∀ request name p c',
      c.onDevice (Gpu.createRasterPipeline request name) = (.ok p, c') →
      request.sources.mapM ShaderSource.reflectStage = .ok stages →
      ∀ sources : List ShaderSource, sources.Perm request.sources →
        ∃ stages' p' d', sources.mapM ShaderSource.reflectStage = .ok stages' ∧
          d.onDevice (Gpu.createRasterPipeline { request with sources } name) = (.ok p', d') ∧
          p.binder = lockedBinder stages ∧ p'.binder = lockedBinder stages' ∧
          (Reflection.Agree (·.kind) stages → p'.sets.map (·.2) = p.sets.map (·.2)) ∧
          (Reflection.Agree (fun slot => slot) stages → p'.binder = p.binder) := by
  refine ⟨fun set n => ?_, fun set n slot entered => ?_, setLayout?_eq_iff_agree stages,
    lockedBinder_eq_iff_agree stages, ?_⟩
  · rw [lockedBinder_slot?, Reflection.isSome_slot?]
    exact Reflection.exists_buffer_iff
  · rw [lockedBinder_slot?] at entered
    obtain ⟨sooner, e, later, split, there, others, rfl⟩ := Reflection.slot?_eq_some_iff.1 entered
    refine ⟨sooner, e, later, split, there, others, rfl, fun all b member => ?_,
      fun all b member => ?_⟩
    · exact all b (split ▸ List.mem_append_left _ member)
    · intro set number
      rw [split] at member
      rcases List.mem_append.1 member with before | own | ⟨_, after⟩
      · exact all b before set number
      · exact UInt64.le_refl _
      · exact absurd ⟨set, number⟩ (others b after)
  · intro c d reachable reachable' request name p c' made reflected sources order
    obtain ⟨stages', p', d', reflected', perm, made', binder, binder', layouts⟩ :=
      reachable.remade reachable' made reflected order
    refine ⟨stages', p', d', reflected', made', binder, binder',
      fun agree => layouts fun set => ?_,
      fun agree => ?_⟩
    · rw [binder, binder', (setLayout?_eq_iff_agree stages).2 agree stages' perm]
    · rw [binder, binder', (lockedBinder_eq_iff_agree stages).2 agree stages' perm]

/-- A stage with one uniform buffer, which is an array of vectors of four. -/
def ShaderSource.withUniform (stage : Stage) (n : Nat) : ShaderSource :=
  ⟨.module .binary ⟨[⟨some (0, 0), .uniform, .array (.vector 4) n⟩], [⟨"main", some stage⟩]⟩,
    stage, "main"⟩

/-- What it reflects, if its buffer has so many bytes. -/
def Reflection.withUniform (stage : Stage) (bytes : UInt64) : Reflection :=
  ⟨[⟨0, 0, .uniformBuffer, bytes⟩], [("main", stage)]⟩

theorem ShaderSource.reflectStage_withUniform (stage : Stage) {n : Nat}
    (sized : ShaderModule.boundHaveSize
      ⟨[⟨some (0, 0), .uniform, .array (.vector 4) n⟩], [⟨"main", some stage⟩]⟩ = true) :
    (withUniform stage n).reflectStage =
      .ok (.withUniform stage (.ofNat (ShaderType.array (.vector 4) n).size)) := by
  have reflects : (withUniform stage n).reflect =
      .ok (.withUniform stage (.ofNat (ShaderType.array (.vector 4) n).size)) := by
    rw [reflect, withUniform, parse, Reflection.withUniform,
      ← List.mergeSort_singleton (⟨0, 0, .uniformBuffer, _⟩ : ReflectedBinding)]
    exact if_pos sized
  rw [reflectStage, reflects]
  cases stage <;> rfl

theorem Reflection.slot?_withUniform (stage : Stage) (bytes : UInt64) {set n : UInt32}
    {slot : Binding} (own : slot? [withUniform stage bytes] set n = some slot) :
    slot = ⟨.readOnlyBuffer, .null, bytes⟩ := by
  obtain ⟨e, found, rfl⟩ := Option.map_eq_some_iff.1 own
  have member := List.mem_of_find?_eq_some found
  obtain rfl : e = (⟨0, 0, .uniformBuffer, bytes⟩, .readOnlyBuffer) := by
    simpa [buffers, ownBuffers, withUniform, ReflectedType.bufferKind?] using member
  rfl

/-- A drawing whose vertex stage accepts a uniform buffer from 512 bytes on and whose fragment stage
accepts the same one from 16 bytes on. -/
def sharedUniform : Gpu.RasterRequest where
  sources := [.withUniform .vertex 32, .withUniform .fragment 1]
  targets := []

def sharedStages : List Reflection := [.withUniform .vertex 512, .withUniform .fragment 16]

theorem agree_kind_sharedStages : Reflection.Agree (·.kind) sharedStages := by
  have kind {r : Reflection} (member : r ∈ sharedStages) {set n : UInt32} {slot : Binding}
      (own : Reflection.slot? [r] set n = some slot) : slot.kind = .readOnlyBuffer := by
    simp only [sharedStages, List.mem_cons, List.not_mem_nil, or_false] at member
    rcases member with rfl | rfl <;> rw [Reflection.slot?_withUniform _ _ own]
  exact fun r member r' member' set n slot slot' own own' =>
    (kind member own).trans (kind member' own').symm

/-- A pipeline is made of it with either source first. Both have the same layouts, but only in the
binder of the second does the slot ask for the bytes that the vertex stage needs. -/
theorem stages_merged_drawn :
    let c := Client.opened ⟨1⟩
    let slot (bytes : UInt64) : Option Binding := some ⟨.readOnlyBuffer, .null, bytes⟩
    ∃ p c' p' d', c.onDevice (Gpu.createRasterPipeline sharedUniform "k") = (.ok p, c') ∧
      c.onDevice (Gpu.createRasterPipeline
        { sharedUniform with sources := sharedUniform.sources.reverse } "k") = (.ok p', d') ∧
      p'.sets.map (·.2) = p.sets.map (·.2) ∧ p.binder.slot? 0 0 = slot 16 ∧
      p'.binder.slot? 0 0 = slot 512 := by
  intro c slot
  have reachable : c.Reachable := ⟨c, Client.fresh_opened ⟨1⟩, [], rfl⟩
  have vertex : (ShaderSource.withUniform .vertex 32).reflectStage =
      .ok (.withUniform .vertex 512) := ShaderSource.reflectStage_withUniform .vertex (by decide)
  have fragment : (ShaderSource.withUniform .fragment 1).reflectStage =
      .ok (.withUniform .fragment 16) := ShaderSource.reflectStage_withUniform .fragment (by decide)
  have reflected : sharedUniform.sources.mapM ShaderSource.reflectStage = .ok sharedStages :=
    mapM_eq_ok_iff.2 (.cons vertex (.cons fragment .nil))
  have sound : sharedUniform.Sound := by
    refine ⟨nofun, ⟨by decide, ?_⟩, by decide, fun stages same => ?_, [], rfl⟩
    · exact List.forall_mem_cons.2 ⟨⟨by decide, rfl, _, vertex⟩,
        List.forall_mem_singleton.2 ⟨by decide, rfl, _, fragment⟩⟩
    · obtain rfl := Except.ok.inj (reflected.symm.trans same)
      decide +kernel
  obtain ⟨p, c', made⟩ := reachable.makes sound "k"
  obtain ⟨-, -, -, -, drawn⟩ := stages_merged sharedStages
  obtain ⟨stages', p', d', reflected', made', binder, binder', layouts, -⟩ :=
    drawn c c reachable reachable sharedUniform "k" p c' made reflected _ (List.reverse_perm _)
  obtain rfl : sharedStages.reverse = stages' :=
    Except.ok.inj ((mapM_eq_ok_iff.2 (.cons fragment (.cons vertex .nil))).symm.trans reflected')
  refine ⟨p, c', p', d', made, made', layouts agree_kind_sharedStages, ?_, ?_⟩
  · rw [binder]
    decide +kernel
  · rw [binder']
    decide +kernel

/-- A later stage that accepts fewer bytes of a shared buffer takes from its slot what a sooner one
needs, so that the order of the stages shows although they agree in the kinds of their slots. -/
theorem later_stage_counts :
    (¬∀ stages set n slot, (lockedBinder stages).slot? set n = some slot →
      ∀ r ∈ stages, ∀ b ∈ r.bindings, b.set = set → b.binding = n → b.minSize ≤ slot.size) ∧
    ¬∀ stages, Reflection.Agree (·.kind) stages →
      ∀ stages', stages'.Perm stages → lockedBinder stages' = lockedBinder stages := by
  refine ⟨fun always => ?_, fun always => ?_⟩
  · have large := always sharedStages 0 0 ⟨.readOnlyBuffer, .null, 16⟩ (by decide +kernel) _
      List.mem_cons_self _ (List.mem_singleton_self _) rfl rfl
    exact absurd large (by decide)
  · have same := always sharedStages agree_kind_sharedStages sharedStages.reverse
      (List.reverse_perm _)
    have slots := congrArg (·.slot? 0 0) same
    exact absurd slots (by decide +kernel)

end DeviceLayer
