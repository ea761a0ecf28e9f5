import DeviceLayer.Proofs.Bindings
import Mathlib.Data.List.Forall2

/-!
# What binding resources promises

Binding resources while a compute pipeline is bound promises the groups it builds to the dispatches
that follow. Two ways of recording break the promise. The groups of a call that is made inside a
render pass are recorded there and never reach a dispatch. And a later call that fails on the way
has replaced some of the groups by then.

What was promised is told from the results of the calls and from the bind groups that the platform
made for them, not from what was recorded.

* `Platform.Built` — the bind groups that the platform made between two moments.
* `Promise.after` — what is promised after a call.
* `CommandList.expected` — the dispatches that were recorded, each with what was promised to it.
* `CommandList.promises_kept` — what is kept of it in the native commands.
* `CommandList.promise_broken` — a dispatch that runs with the groups of an earlier call.
-/

namespace DeviceLayer

open DeviceLayer.Action

/-! ## What was built -/

/-- The windows of a bind group that was made. -/
def Event.built? : Event → Option BindWindows
  | .createBindGroup windows => some windows
  | _ => none

namespace Platform

/-- The bind groups made between two moments, in order. -/
def built (p q : Platform) : List BindWindows :=
  (q.log.drop p.log.length).filterMap Event.built?

/-- The platform went on from one moment to the other and made these bind groups. -/
def Built (windows : List BindWindows) (p q : Platform) : Prop :=
  ∃ events, q.log = p.log ++ events ∧ events.filterMap Event.built? = windows

theorem Built.built {windows : List BindWindows} {p q : Platform} (h : Built windows p q) :
    p.built q = windows := by
  obtain ⟨events, log, made⟩ := h
  rw [Platform.built, log, List.drop_left, made]

theorem Built.refl (p : Platform) : Built [] p p := ⟨[], (List.append_nil _).symm, rfl⟩

theorem Built.trans {windows windows' : List BindWindows} {p q u : Platform}
    (first : Built windows p q) (second : Built windows' q u) :
    Built (windows ++ windows') p u := by
  obtain ⟨events, log, made⟩ := first
  obtain ⟨events', log', made'⟩ := second
  exact ⟨events ++ events', by rw [log', log, List.append_assoc], by
    rw [List.filterMap_append, made, made']⟩

end Platform

namespace Gpu

/-- No bind group was made. -/
def MakesNoGroup (s t : Live Gpu) : Prop := Platform.Built [] s.platform t.platform

instance : Evolution MakesNoGroup where
  refl s := .refl s.platform
  trans first second := first.trans second

theorem makesNoGroup_update (f : Gpu → Gpu) : (Live.update f).Evolves MakesNoGroup :=
  fun s => .refl s.platform

theorem makesNoGroup_allocSet (layout : CacheHandle) : (allocSet layout).Evolves MakesNoGroup :=
  (evolves_layoutEntry _).bind fun _ => (Evolves.checked _).bind fun _ =>
    (makesNoGroup_update _).bind fun _ => .pure _

theorem makesNoGroup_placeholderFor (minSize : Nat) :
    (placeholderFor minSize).Evolves MakesNoGroup :=
  evolves_placeholderFor (fun _ _ => ⟨_, rfl, rfl⟩) (fun s _ => .refl s.platform) minSize

theorem makesNoGroup_bindSlot (binder : Binder) (index binding : UInt32) (kind : ResourceKind) :
    (bindSlot binder index binding kind).Evolves MakesNoGroup := by
  simp only [bindSlot]
  split
  · exact evolves_bindWindow _ _ _ _
  · exact (makesNoGroup_placeholderFor _).bind fun _ => .pure _

theorem makesNoGroup_entries (set : SetHandle) (layout : SetLayout) (binder : Binder)
    (index : UInt32) :
    (do let entries ← layout.toList.mapM fun (binding, kind) => bindSlot binder index binding kind
        let entry ← layoutEntry set.layout
        pure (entries, entry) : Action (Live Gpu) (List BindEntry × LayoutEntry)).Evolves
      MakesNoGroup :=
  (Evolves.mapM fun _ => makesNoGroup_bindSlot _ _ _ _).bind fun _ =>
    (evolves_layoutEntry _).bind fun _ => .pure _

/-- Writing a set makes one bind group, at the end. -/
theorem writeSet_builds (set : SetHandle) (layout : SetLayout) (binder : Binder) (index : UInt32)
    (s : Live Gpu) :
    (writeSet set layout binder index).wp
      (fun group t => Platform.Built [group.windows] s.platform t.platform)
      (fun _ t => MakesNoGroup s t) s := by
  have prepared := makesNoGroup_entries set layout binder index s
  simp only [wp_bind, wp_pure] at prepared
  simp only [writeSet, wp_bind]
  refine prepared.mono (fun entries t ended => ?_) fun _ _ failed => failed
  refine ended.mono (fun entry t' silent => ?_) fun _ _ failed => failed
  rw [wp_attempt, Platform.wp_createBindGroup]
  exact ⟨fun _ => Platform.Built.trans silent ⟨_, rfl, rfl⟩, fun _ _ => silent⟩

end Gpu

/-! ## What a call binds -/

/-- Binds groups to indices, in order. -/
def Recorded.bindAll (groups : List (UInt32 × BindGroup)) : List Recorded :=
  groups.map fun e => .bindGroup e.1 e.2

namespace Recording

/-- Exactly these groups were made and recorded. -/
structure Binds (groups : List (UInt32 × BindGroup)) (r t : Recording) : Prop where
  commands : t.list.commands.toList = r.list.commands.toList ++ Recorded.bindAll groups
  built : Platform.Built (groups.map (·.2.windows)) r.live.platform t.live.platform

theorem Binds.refl (r : Recording) : Binds [] r r := ⟨(List.append_nil _).symm, .refl _⟩

theorem Binds.trans {groups groups' : List (UInt32 × BindGroup)} {r t u : Recording}
    (first : Binds groups r t) (second : Binds groups' t u) : Binds (groups ++ groups') r u where
  commands := by simp [second.commands, first.commands, Recorded.bindAll]
  built := by
    rw [List.map_append]
    exact first.built.trans second.built

theorem bindSet_binds (binder : Binder) (index : UInt32) (layout : CacheHandle) (slots : SetLayout)
    (r : Recording) :
    (bindSet binder index layout slots).wp (fun _ t => ∃ group, Binds [(index, group)] r t)
      (fun _ t => Binds [] r t) r := by
  simp only [bindSet, wp_bind, wp_onDevice, wp_updateList, wp_push]
  refine (Gpu.makesNoGroup_allocSet layout r.live).mono (fun set t took => ?_) fun e t took => ?_
  · refine (Gpu.writeSet_builds set slots binder index t).mono (fun group u made => ?_) ?_
    · exact ⟨group, Array.toList_push .., took.trans made⟩
    · exact fun e u failed => ⟨(List.append_nil _).symm, took.trans failed⟩
  · exact ⟨(List.append_nil _).symm, took⟩

/-- The groups of consecutive indices. -/
def numbered (first : Nat) (groups : List BindGroup) : List (UInt32 × BindGroup) :=
  (groups.zipIdx first).map fun e => (UInt32.ofNat e.2, e.1)

theorem bindSets_binds (binder : Binder) (sets : List (CacheHandle × SetLayout)) (first : Nat)
    (r : Recording) :
    wp ((sets.zipIdx first).forM fun ((layout, slots), index) =>
        bindSet binder (UInt32.ofNat index) layout slots)
      (fun _ t => ∃ groups, groups.length = sets.length ∧ Binds (numbered first groups) r t)
      (fun _ t => ∃ groups, Binds groups r t) r := by
  induction sets generalizing first r with
  | nil => exact ⟨[], rfl, .refl r⟩
  | cons set sets ih =>
    rw [List.zipIdx_cons]
    refine (wp_bind _ _).2 ((bindSet_binds binder _ set.1 set.2 r).mono ?_ fun e t failed => ?_)
    · intro _ t bound
      obtain ⟨group, bound⟩ := bound
      refine (ih (first + 1) t).mono (fun _ u rest => ?_) fun e u rest => ?_
      · obtain ⟨groups, length, rest⟩ := rest
        exact ⟨group :: groups, congrArg (· + 1) length, bound.trans rest⟩
      · obtain ⟨groups, rest⟩ := rest
        exact ⟨_, bound.trans rest⟩
    · exact ⟨[], failed⟩

/-- All that can come of binding resources while no raster pipeline is bound. -/
inductive BindEnd (r : Recording) : Except Fault Unit → Recording → Prop where
  | bound {t : Recording} {sets : List (CacheHandle × SetLayout)} {groups : List BindGroup}
    (isBound : r.list.bound = some ⟨false, sets⟩) (covers : groups.length = sets.length)
    (binds : Binds (numbered 0 groups) r t) : BindEnd r (.ok ()) t
  | failed {e : Fault} {t : Recording} {groups : List (UInt32 × BindGroup)}
    (binds : Binds groups r t) : BindEnd r (.error e) t

theorem bindResources_ends (binder : Binder) {r : Recording}
    (compute : ∀ b, r.list.bound = some b → b.graphics = false) :
    (bindResources binder).wp (fun _ t => BindEnd r (.ok ()) t) (fun e t => BindEnd r (.error e) t)
      r := by
  simp only [bindResources, wp_bind, wp_checkRecording, wp_current, wp_orRefuse]
  refine ⟨fun _ => ⟨fun b isBound => ?_, fun _ => .failed (.refl r)⟩, fun _ => .failed (.refl r)⟩
  obtain ⟨graphics, sets⟩ := b
  cases compute _ isBound
  refine (bindSets_binds binder sets 0 r).mono (fun _ t bound => ?_) fun e t failed => ?_
  · obtain ⟨groups, covers, binds⟩ := bound
    exact .bound isBound covers binds
  · obtain ⟨groups, binds⟩ := failed
    exact .failed binds

end Recording

/-! ## Promises -/

/-- What the latest binding of resources for compute promised. -/
structure Promise where
  /-- How many indices the bound pipeline has. -/
  sets : Nat
  /-- The windows of the groups that the call built, from index zero on. -/
  windows : List BindWindows
  /-- The call was made outside render passes, and no later one failed there after it had built some
  group. -/
  kept : Bool

namespace Promise

/-- The windows promised to an index. -/
def group? (p : Promise) (index : UInt32) : Option BindWindows :=
  p.windows.zipIdx.reverse.findSome? fun e =>
    if index = UInt32.ofNat e.2 then some e.1 else none

/-- What is promised after a call that ended like this and built these groups, if `p` was before. -/
def next (p : Option Promise) (l : CommandList) (built : List BindWindows) :
    RecordingCall → Except Fault Unit → Option Promise
  | .bindResources _, .ok () =>
    match l.bound with
    | some ⟨false, sets⟩ => some ⟨sets.length, built, l.target.isNone⟩
    | _ => p
  | .bindResources _, .error _ =>
    if l.target.isNone && !built.isEmpty then p.map fun p => { p with kept := false } else p
  | _, _ => p

def after (p : Option Promise) (l : CommandList) (made : Live Gpu × RecordingCall) :
    Option Promise :=
  let ended := made.2.run.outcome ⟨made.1, l⟩
  next p l (made.1.platform.built ended.2.live.platform) made.2 ended.1

end Promise

/-- A dispatch that was recorded, with what was promised to it then. -/
structure Expected where
  x : UInt32
  y : UInt32
  z : UInt32
  promise : Option Promise

namespace CommandList

/-- The dispatch that a call records, if `p` is promised before it. -/
def expectedOf (p : Option Promise) (l : CommandList) (made : Live Gpu × RecordingCall) :
    List Expected :=
  match made.2, (made.2.run.outcome ⟨made.1, l⟩).1 with
  | .dispatch x y z, .ok () => [⟨x, y, z, p⟩]
  | _, _ => []

/-- The dispatches that calls record, if `p` is promised before them. -/
def expected (p : Option Promise) (l : CommandList) :
    List (Live Gpu × RecordingCall) → List Expected
  | [] => []
  | made :: calls => expectedOf p l made ++ expected (Promise.after p l made) (l.record made) calls

end CommandList

/-- At every index that it covers, the bindings have the groups of the promise. -/
def Promise.MetBy (p : Promise) (b : Bindings) : Prop :=
  ∀ index windows, p.group? index = some windows →
    (b.groups index).map (·.windows) = some windows

/-- The native dispatch has what was promised to the recorded one. -/
structure Honours (e : Expected) (d : Dispatched) : Prop where
  counts : (e.x, e.y, e.z) = (d.x, d.y, d.z)
  covers : ∀ promise, e.promise = some promise → promise.windows.length = promise.sets
  groups : ∀ promise, e.promise = some promise → promise.kept = true → promise.MetBy d.bindings

/-! ## What recorded commands do to the groups bound last -/

namespace Recorded

theorem lastGroup_append_of_none {added : List Recorded}
    (none : ∀ command ∈ added, ∀ index, command.group? index = none) (before : List Recorded) :
    lastGroup (before ++ added) = lastGroup before := by
  induction added generalizing before with
  | nil => rw [List.append_nil]
  | cons command added ih =>
    obtain ⟨first, rest⟩ := List.forall_mem_cons.1 none
    rw [List.append_cons, ih rest, lastGroup_concat]
    split
    · rfl
    · funext index
      rw [first, Option.none_or]

theorem lastGroup_append_inside {before added : List Recorded}
    (place : before.foldl placeAfter false = true)
    (stays : ∀ command ∈ added, placeAfter true command = true) :
    lastGroup (before ++ added) = lastGroup before := by
  induction added generalizing before with
  | nil => rw [List.append_nil]
  | cons command added ih =>
    obtain ⟨first, rest⟩ := List.forall_mem_cons.1 stays
    have still : (before ++ [command]).foldl placeAfter false = true := by
      rw [List.foldl_append, place]
      exact first
    rw [List.append_cons, ih still rest, lastGroup_concat, if_pos place]

theorem lastGroup_append_groups {before : List Recorded}
    (place : before.foldl placeAfter false = false) (groups : List (UInt32 × BindGroup))
    (index : UInt32) :
    lastGroup (before ++ bindAll groups) index =
      (groups.reverse.findSome? fun e => if index = e.1 then some e.2 else none).or
        (lastGroup before index) := by
  have allOutside : outside false (bindAll groups) = bindAll groups := by
    induction groups with
    | nil => rfl
    | cons e groups ih => exact congrArg _ ih
  rw [lastGroup, outside_append, place, allOutside, List.reverse_append, List.findSome?_append,
    bindAll, ← List.map_reverse, List.findSome?_map]
  rfl

theorem dispatches_of_none {added : List Recorded}
    (none : ∀ command ∈ added, ∀ x y z, command ≠ .dispatch x y z) (before : List Recorded) :
    dispatches before added = [] := by
  induction added generalizing before with
  | nil => rfl
  | cons command added ih =>
    obtain ⟨first, rest⟩ := List.forall_mem_cons.1 none
    cases command with
    | dispatch x y z => exact absurd rfl (first x y z)
    | _ => exact ih rest _

end Recorded

/-! ## Keeping promises -/

namespace Promise

/-- What is promised is what the recorded commands bound last. -/
structure Upheld (p : Promise) (before : List Recorded) : Prop where
  covers : p.windows.length = p.sets
  groups : p.kept = true → p.MetBy (Recorded.bindings before)

theorem Upheld.of_same {p : Promise} {before after : List Recorded} (h : p.Upheld before)
    (same : Recorded.lastGroup after = Recorded.lastGroup before) : p.Upheld after where
  covers := h.covers
  groups kept index := by
    have met := h.groups kept index
    rw [Recorded.bindings, ← same] at met
    exact met

theorem Upheld.given_up {p : Promise} {before : List Recorded} (h : p.Upheld before)
    (after : List Recorded) : Upheld { p with kept := false } after where
  covers := h.covers
  groups := nofun

/-- The groups of one call are those that it promises, wherever they are looked up. -/
theorem group?_numbered (groups : List BindGroup) (sets : Nat) (kept : Bool) (index : UInt32) :
    Promise.group? ⟨sets, groups.map (·.windows), kept⟩ index =
      ((Recording.numbered 0 groups).reverse.findSome? fun e =>
        if index = e.1 then some e.2 else none).map (·.windows) := by
  rw [Promise.group?, Recording.numbered, List.zipIdx_map, ← List.map_reverse, ← List.map_reverse,
    List.findSome?_map, List.findSome?_map, List.map_findSome?]
  congr 1
  funext e
  simp only [Function.comp]
  split <;> simp_all

theorem windows_numbered (groups : List BindGroup) :
    (Recording.numbered 0 groups).map (·.2.windows) = groups.map (·.windows) := by
  have plain := congrArg (List.map BindGroup.windows) (List.zipIdx_map_fst 0 groups)
  rw [List.map_map] at plain
  rw [Recording.numbered, List.map_map]
  exact plain

end Promise

namespace CommandList

variable {l : CommandList} {p : Option Promise}

theorem Open.place (h : l.Open) :
    l.commands.toList.foldl Recorded.placeAfter false = l.target.isSome := by
  obtain ⟨inside, inOrder⟩ := h.2 h.1
  rw [Recorded.place_of_ordered inOrder.commands, inOrder.target]

theorem Open.inside_of_graphics (h : l.Open) {sets : List (CacheHandle × SetLayout)}
    (isBound : l.bound = some ⟨true, sets⟩) : l.target.isSome = true := by
  obtain ⟨inside, inOrder⟩ := h.2 h.1
  rw [inOrder.target]
  exact inOrder.bound _ isBound rfl

/-- What one call adds to a list keeps what is promised after it, and the dispatch that it records
has what was promised before. -/
structure Step (p : Option Promise) (l : CommandList) (made : Live Gpu × RecordingCall)
    (added : List Recorded) : Prop where
  commands : (l.record made).commands.toList = l.commands.toList ++ added
  upheld : ∀ promise, Promise.after p l made = some promise →
    promise.Upheld (l.commands.toList ++ added)
  honours : List.Forall₂ Honours (expectedOf p l made)
    (Recorded.dispatches l.commands.toList added)

theorem no_dispatch {live : Live Gpu} {call : RecordingCall} {added : List Recorded}
    (other : ∀ x y z, call ≠ .dispatch x y z)
    (allowed : ∀ command ∈ added, call.mayRecord command = true) (before : List Recorded) :
    List.Forall₂ Honours (expectedOf p l (live, call)) (Recorded.dispatches before added) := by
  have none : ∀ command ∈ added, ∀ x y z, command ≠ .dispatch x y z := by
    rintro command member x y z rfl
    have allowed := allowed _ member
    cases call with
    | dispatch x y z => exact absurd rfl (other x y z)
    | _ => cases allowed
  rw [Recorded.dispatches_of_none none, expectedOf]
  split
  · rename_i x y z isDispatch _
    exact absurd isDispatch (other x y z)
  · exact .nil

/-- The promise of a call that binds for compute, and the earlier one if it fails. -/
theorem upheld_compute (h : l.Open)
    (upheld : ∀ promise, p = some promise → promise.Upheld l.commands.toList) (live : Live Gpu)
    (binder : Binder) (compute : ∀ b, l.bound = some b → b.graphics = false) {promise : Promise}
    (promised : Promise.after p l (live, .bindResources binder) = some promise) :
    promise.Upheld (l.record (live, .bindResources binder)).commands.toList := by
  have ends := wp.outcome (P := fun o => Recording.BindEnd ⟨live, l⟩ o.1 o.2)
    (Recording.bindResources_ends binder (r := ⟨live, l⟩) compute)
  simp only [Promise.after, record, RecordingCall.run] at promised ⊢
  generalize (Recording.bindResources binder).outcome ⟨live, l⟩ = ended at ends promised ⊢
  obtain ⟨result, t⟩ := ended
  cases ends with
  | @bound t sets groups isBound covers binds =>
    have isBound : l.bound = some ⟨false, sets⟩ := isBound
    have built := binds.built.built.trans (Promise.windows_numbered groups)
    simp only [Promise.next, isBound, built, Option.some.injEq] at promised
    subst promised
    refine ⟨(List.length_map _).trans covers, fun kept index windows found => ?_⟩
    have outside : l.target.isSome = false := by simpa using kept
    rw [Promise.group?_numbered] at found
    obtain ⟨group, latest, rfl⟩ := Option.map_eq_some_iff.1 found
    have bound := Recorded.lastGroup_append_groups (h.place.trans outside)
      (Recording.numbered 0 groups) index
    rw [← binds.commands, latest] at bound
    exact congrArg (Option.map BindGroup.windows) bound
  | @failed e t groups binds =>
    simp only [Promise.next, binds.built.built] at promised
    split at promised
    · obtain ⟨earlier, was, rfl⟩ := Option.map_eq_some_iff.1 promised
      exact (upheld earlier was).given_up _
    · rename_i harmless
      refine (upheld promise promised).of_same ?_
      rw [binds.commands]
      cases place : l.target with
      | some target =>
        refine Recorded.lastGroup_append_inside (h.place.trans (by simp [place])) ?_
        intro command member
        obtain ⟨e, -, rfl⟩ := List.mem_map.1 member
        rfl
      | none =>
        -- Nothing was built, so nothing was recorded.
        have nothing : groups = [] := by simpa [place] using harmless
        rw [nothing]
        simp [Recorded.bindAll]

/-- A raster pipeline is bound inside a render pass, and so is what is bound for it. -/
theorem upheld_raster (h : l.Open)
    (upheld : ∀ promise, p = some promise → promise.Upheld l.commands.toList) (live : Live Gpu)
    (binder : Binder) {sets : List (CacheHandle × SetLayout)}
    (isBound : l.bound = some ⟨true, sets⟩) {promise : Promise}
    (promised : Promise.after p l (live, .bindResources binder) = some promise) :
    promise.Upheld (l.record (live, .bindResources binder)).commands.toList := by
  have inside := h.inside_of_graphics isBound
  obtain ⟨-, added, commands, allowed⟩ :=
    (RecordingCall.bindResources binder).adds.outcome ⟨live, l⟩
  have stays : ∀ command ∈ added, command.placeAfter true = true := by
    intro command member
    have allowed := allowed command member
    cases command with
    | endRenderPass => cases allowed
    | _ => rfl
  have same : Promise.after p l (live, .bindResources binder) = p := by
    have notNone : l.target.isNone = false := by simpa using inside
    simp only [Promise.after]
    cases ((RecordingCall.bindResources binder).run.outcome ⟨live, l⟩).1 with
    | ok => simp only [Promise.next, isBound]
    | error e => simp [Promise.next, notNone]
  rw [same] at promised
  refine (upheld promise promised).of_same ?_
  exact (congrArg _ commands).trans (Recorded.lastGroup_append_inside (h.place.trans inside) stays)

theorem step_bindResources (h : l.Open)
    (upheld : ∀ promise, p = some promise → promise.Upheld l.commands.toList) (live : Live Gpu)
    (binder : Binder) : ∃ added, Step p l (live, .bindResources binder) added := by
  obtain ⟨-, added, commands, allowed⟩ :=
    (RecordingCall.bindResources binder).adds.outcome ⟨live, l⟩
  refine ⟨added, commands, fun promise promised => ?_, no_dispatch (by simp) allowed _⟩
  have kept : promise.Upheld (l.record (live, .bindResources binder)).commands.toList := by
    cases bound : l.bound with
    | none => exact upheld_compute h upheld live binder (by simp [bound]) promised
    | some b =>
      obtain ⟨graphics, sets⟩ := b
      cases graphics with
      | true => exact upheld_raster h upheld live binder bound promised
      | false => exact upheld_compute h upheld live binder (by simp [bound]) promised
  exact commands ▸ kept

theorem step_dispatch (upheld : ∀ promise, p = some promise → promise.Upheld l.commands.toList)
    (live : Live Gpu) (x y z : UInt32) : ∃ added, Step p l (live, .dispatch x y z) added := by
  have ended : (Recording.dispatch x y z).wp
      (fun _ t => t.list.commands.toList = l.commands.toList ++ [.dispatch x y z])
      (fun _ t => t.list = l) ⟨live, l⟩ := by
    simp [Recording.dispatch]
  have outcome := wp.outcome (P := fun o : Except Fault Unit × Recording =>
      o.1 = .ok () ∧ o.2.list.commands.toList = l.commands.toList ++ [.dispatch x y z] ∨
        (∃ e, o.1 = .error e) ∧ o.2.list = l)
    (ended.mono (fun _ t added => .inl ⟨rfl, added⟩) fun e t same => .inr ⟨⟨e, rfl⟩, same⟩)
  rcases outcome with ⟨ok, commands⟩ | ⟨⟨e, failed⟩, same⟩
  · refine ⟨[.dispatch x y z], commands, fun promise promised => ?_, ?_⟩
    · exact (upheld promise promised).of_same
        (Recorded.lastGroup_append_of_none (List.forall_mem_singleton.2 fun _ => rfl) _)
    · simp only [expectedOf, RecordingCall.run, ok]
      refine .cons ⟨rfl, fun promise promised => ?_, fun promise promised => ?_⟩ .nil
      · exact (upheld promise promised).covers
      · exact (upheld promise promised).groups
  · refine ⟨[], ?_, fun promise promised => ?_, ?_⟩
    · rw [List.append_nil]
      exact congrArg (fun l : CommandList => l.commands.toList) same
    · rw [List.append_nil]
      exact upheld promise promised
    · simp only [expectedOf, RecordingCall.run, failed]
      exact .nil

/-- Any other call binds no group and records no dispatch. -/
theorem step_other (upheld : ∀ promise, p = some promise → promise.Upheld l.commands.toList)
    (live : Live Gpu) {call : RecordingCall} (noBinding : ∀ binder, call ≠ .bindResources binder)
    (noDispatch : ∀ x y z, call ≠ .dispatch x y z) : ∃ added, Step p l (live, call) added := by
  obtain ⟨-, added, commands, allowed⟩ := call.adds.outcome ⟨live, l⟩
  have noGroup : ∀ command ∈ added, ∀ index, command.group? index = none := by
    intro command member index
    have allowed := allowed command member
    cases command with
    | bindGroup i group =>
      cases call with
      | bindResources binder => exact absurd rfl (noBinding binder)
      | _ => cases allowed
    | _ => rfl
  refine ⟨added, commands, fun promise promised => ?_, no_dispatch noDispatch allowed _⟩
  have same : Promise.after p l (live, call) = p := by
    cases call with
    | bindResources binder => exact absurd rfl (noBinding binder)
    | _ => rfl
  exact (upheld promise (same ▸ promised)).of_same (Recorded.lastGroup_append_of_none noGroup _)

theorem step (h : l.Open)
    (upheld : ∀ promise, p = some promise → promise.Upheld l.commands.toList)
    (made : Live Gpu × RecordingCall) : ∃ added, Step p l made added := by
  obtain ⟨live, call⟩ := made
  cases call with
  | bindResources binder => exact step_bindResources h upheld live binder
  | dispatch x y z => exact step_dispatch upheld live x y z
  | _ => exact step_other upheld live (by simp) (by simp)

/-- The dispatches of a list, from one moment on, have what was promised to them. -/
theorem run (h : l.Open)
    (upheld : ∀ promise, p = some promise → promise.Upheld l.commands.toList)
    (calls : List (Live Gpu × RecordingCall)) :
    ∃ added, (calls.foldl record l).commands.toList = l.commands.toList ++ added ∧
      List.Forall₂ Honours (expected p l calls) (Recorded.dispatches l.commands.toList added) := by
  induction calls generalizing l p with
  | nil => exact ⟨[], (List.append_nil _).symm, .nil⟩
  | cons made calls ih =>
    obtain ⟨added, commands, upheld, honours⟩ := step h upheld made
    obtain ⟨more, commands', honours'⟩ := ih (h.record made) (commands ▸ upheld)
    rw [commands] at commands' honours'
    refine ⟨added ++ more, commands'.trans (List.append_assoc _ _ _), ?_⟩
    rw [Recorded.dispatches_append]
    exact List.rel_append honours honours'

/-- Each native dispatch has the groups of the latest call that bound resources for compute, if that
call was made outside render passes and no later one failed there after it had built some group. -/
theorem promises_kept (buffer : CommandBufferId) (calls : List (Live Gpu × RecordingCall))
    (live : Live Gpu) :
    ∃ trace,
      (Recording.finalize.outcome ⟨live, recorded buffer calls⟩).1 = .ok (some trace) ∧
        List.Forall₂ Honours (expected none { buffer } calls)
          (Bindings.dispatches {} trace) := by
  have h := open_recorded buffer calls
  obtain ⟨added, commands, honours⟩ :=
    run (p := none) (open_recorded buffer []) (fun _ => nofun) calls
  have closing : Recorded.dispatches [] (recorded buffer calls).closed =
      Recorded.dispatches [] added := by
    have commands : (recorded buffer calls).commands.toList = added := commands
    rw [closed, commands, Recorded.dispatches_append]
    split <;> simp [Recorded.dispatches]
  refine ⟨_, h.finalize live, ?_⟩
  rw [dispatches_encode h.ordered, closing]
  exact honours

/-- Calls made one right after the other, each with the device as the one before left it. -/
def inTurn (live : Live Gpu) (l : CommandList) :
    List RecordingCall → List (Live Gpu × RecordingCall)
  | [] => []
  | call :: calls =>
    let ended := call.run.outcome ⟨live, l⟩
    (live, call) :: inTurn ended.2.live ended.2.list calls

/-- A device with a buffer, an image and the layout of one slot. -/
def furnished : Live Gpu :=
  ((Client.opened ⟨1⟩).run
    [.device (.memory (.allocate (.deviceLocal 512))), .device (.createImage .rgba8 4 4),
      .device (.setLayout (.ofEntries [(0, .readWriteBuffer)]))]).live

/-- A compute pipeline is bound with the first bytes of the buffer, and inside of a render pass with
later ones, before it runs. -/
def boundInPass : List RecordingCall :=
  let binder (offset : UInt64) : Binder :=
    Binder.putSlot {} 0 0 ⟨.readWriteBuffer, ⟨⟨1⟩, 0, offset⟩, 16⟩
  let native : NativePipeline := ⟨⟨.computePipeline, 0⟩, ⟨.computePipeline, 0⟩⟩
  let layout : PipelineLayout := ⟨"k", [⟨⟨.layout, 0⟩, ⟨.layout, 0⟩⟩]⟩
  let pipeline : Pipeline :=
    ⟨0, "k", {}, [(⟨0⟩, .ofEntries [(0, .readWriteBuffer)])], layout, .compute native⟩
  [.bindPipeline pipeline, .bindResources (binder 0),
    .beginPass ⟨0, 0, 4, 4⟩ [⟨⟨⟨1⟩, 1⟩, true⟩] none, .bindResources (binder 256), .endPass,
    .dispatch 1 1 1]

/-- So not every dispatch runs with the groups of the latest call that bound resources for compute:
here it runs with those of the call before. -/
theorem promise_broken :
    ¬∀ (buffer : CommandBufferId) (calls : List (Live Gpu × RecordingCall)) (live : Live Gpu),
      ∃ trace,
        (Recording.finalize.outcome ⟨live, recorded buffer calls⟩).1 = .ok (some trace) ∧
          List.Forall₂
            (fun e d => ∀ promise, e.promise = some promise → promise.MetBy d.bindings)
            (expected none { buffer } calls) (Bindings.dispatches {} trace) := by
  intro always
  obtain ⟨trace, finalized, met⟩ :=
    always ⟨0⟩ (inTurn furnished { buffer := ⟨0⟩ } boundInPass) furnished
  rw [(open_recorded _ _).finalize] at finalized
  cases finalized
  obtain ⟨-, met⟩ := List.forall₂_iff_zip.1 met
  have broken : ∃ pair ∈ (expected none { buffer := ⟨0⟩ }
      (inTurn furnished { buffer := ⟨0⟩ } boundInPass)).zip (Bindings.dispatches {}
        (encode (recorded ⟨0⟩ (inTurn furnished { buffer := ⟨0⟩ } boundInPass)).closed)),
      ∃ promise, pair.1.promise = some promise ∧ ∃ windows, promise.group? 0 = some windows ∧
        (pair.2.bindings.groups 0).map (·.windows) ≠ some windows := by
    refine ⟨_, List.mem_cons_self, _, rfl, _, rfl, ?_⟩
    decide
  obtain ⟨pair, member, promise, promised, windows, found, differs⟩ := broken
  exact differs (met member promise promised 0 windows found)

end CommandList

end DeviceLayer
