import DeviceLayer.Proofs.LaunchFrame
import Mathlib.Data.Set.Lattice
import Mathlib.Order.CompletePartialOrder

/-!
# What a launch writes back

A launching device that copies a foreign range works on its own copy of it, one for every node, and
writes all of it back. Nothing keeps nodes from seeing the same bytes: then each writes its own copy
over the other's. Where the copied ranges are disjoint, every one of them comes to hold what its
copy held when the kernel was done.

* `Range.cells` — the bytes of a range.
* `GivenBack`, `World.wp_handBack` — what giving one range back makes of memory.
* `Returned`, `World.wp_handBacks` — what giving all of them back makes of it.
* `World.write_backs` — the write-backs of a launch, and when all of them last.
* `World.write_backs_overlap` — a launch whose write-backs overlap.
-/

namespace DeviceLayer

open DeviceLayer.Action

/-! ## Disjoint ranges -/

namespace Range

/-- The bytes of a range, by device, allocation and offset. -/
def cells (r : Range) : Set (DeviceId × UInt32 × Nat) :=
  {cell | cell.1 = r.device ∧ cell.2.1 = r.start.allocId ∧
    r.start.offset.toNat ≤ cell.2.2 ∧ cell.2.2 < r.start.offset.toNat + r.length.toNat}

variable {dst range : Range}

/-- Within an allocation, one of two disjoint ranges comes before the other, or has no bytes. -/
theorem disjoint_iff (device : dst.device = range.device)
    (alloc : dst.start.allocId = range.start.allocId) :
    Disjoint dst.cells range.cells ↔
      dst.length.toNat = 0 ∨ range.length.toNat = 0 ∨
        range.start.offset.toNat + range.length.toNat ≤ dst.start.offset.toNat ∨
        dst.start.offset.toNat + dst.length.toNat ≤ range.start.offset.toNat := by
  constructor
  · intro disjoint
    by_contra overlap
    -- The later one of their first bytes would be in both.
    have shared : (dst.device, dst.start.allocId,
        max dst.start.offset.toNat range.start.offset.toNat) ∈ dst.cells :=
      ⟨rfl, rfl, Nat.le_max_left _ _, by dsimp only; omega⟩
    refine Set.disjoint_left.1 disjoint shared ⟨device, alloc, Nat.le_max_right _ _, ?_⟩
    dsimp only
    omega
  · intro apart
    refine Set.disjoint_left.2 ?_
    rintro cell ⟨-, -, first, past⟩ ⟨-, -, first', past'⟩
    omega

theorem Shows.splice {block bytes data : Bytes} (shows : range.Shows (some block) bytes)
    (sized : data.length = dst.length.toNat) (device : dst.device = range.device)
    (alloc : dst.start.allocId = range.start.allocId)
    (disjoint : Disjoint dst.cells range.cells) :
    range.Shows (some (block.splice dst.start.offset.toNat data)) bytes := by
  obtain ⟨seen, length⟩ := shows
  have slice : block.slice range.start.offset.toNat range.length.toNat = bytes :=
    Option.some.inj seen
  refine ⟨congrArg some ?_, length⟩
  change (block.splice dst.start.offset.toNat data).slice range.start.offset.toNat
    range.length.toNat = bytes
  rcases (disjoint_iff device alloc).1 disjoint with empty | empty | apart
  · rw [List.eq_nil_of_length_eq_zero (sized.trans empty), Bytes.splice_nil, slice]
  · rw [List.eq_nil_of_length_eq_zero (length.trans empty), empty]
    exact List.take_zero ..
  · rw [Bytes.slice_splice_of_apart (by rw [slice, length]) (by rwa [sized]), slice]

end Range

/-! ## Giving one range back -/

namespace Route

/-- The range that is written back, and its copy. -/
def writeBack? (r : Route) : Option (Range × Range) :=
  match r.access with
  | .shared _ => none
  | .copied _ => some (r.source, r.near)

/-- The range is of another device. If it was copied, its copy is here, and as long as it says. -/
structure Foreign (here : DeviceId) (r : Route) : Prop where
  foreign : r.source.device ≠ here
  copied : ∀ scratch, r.access = .copied scratch →
    scratch.device = here ∧ r.source.length ≠ wholeSize

end Route

/-- What giving a range back to the devices of `w₀` makes of memory. -/
inductive GivenBack (w₀ : World) (key : DeviceKey) (m : Memory) : Route → Memory → Prop where
  | left (node : Int) (source : Range) (pointer : Pointer) :
    GivenBack w₀ key m ⟨node, source, .shared pointer⟩ m
  | released (node : Int) (source : Range) (pointer : Pointer) :
    GivenBack w₀ key m ⟨node, source, .shared pointer⟩
      (Function.update m (key, pointer.allocId) none)
  | written (node : Int) {source : Range} {scratch : Allocation} {owner : DeviceKey}
    {bytes block : Bytes} (known : w₀.registry.find? source.device = some owner)
    (home : (w₀.devices.get? owner).map Device.id = some source.device)
    (shows : (scratch.range source.length).Shows (m (key, scratch.id)) bytes)
    (held : m (owner, source.start.allocId) = some block)
    (lands : (block.splice source.start.offset.toNat bytes).slice source.start.offset.toNat
      bytes.length = bytes) :
    GivenBack w₀ key m ⟨node, source, .copied scratch⟩
      (Function.update
        (Function.update m (owner, source.start.allocId)
          (some (block.splice source.start.offset.toNat bytes)))
        (key, scratch.id) none)

theorem World.ne_of_ids {w : World} {owner key : DeviceKey} {id here : DeviceId}
    (home : (w.devices.get? owner).map Device.id = some id)
    (isHere : (w.devices.get? key).map Device.id = some here) (foreign : id ≠ here) :
    owner ≠ key := by
  rintro rfl
  exact foreign (Option.some.inj (home.symm.trans isHere))

/-- A cell is another one than those of another device. -/
theorem Memory.update_other {m : Memory} {owner key : DeviceKey} (other : owner ≠ key)
    (id id' : UInt32) (block : Option Bytes) :
    Function.update m (key, id) block (owner, id') = m (owner, id') :=
  Function.update_of_ne (fun same => other (Prod.mk.inj same).1) _ _

namespace GivenBack

variable {w₀ : World} {key : DeviceKey} {here : DeviceId} {m m' : Memory} {r : Route}
  (isHere : (w₀.devices.get? key).map Device.id = some here)

include isHere

theorem near (back : GivenBack w₀ key m r m') (foreign : r.source.device ≠ here) {id : UInt32}
    {block : Bytes} (held : m' (key, id) = some block) : m (key, id) = some block := by
  have kept {m : Memory} {freed : UInt32}
      (held : Function.update m (key, freed) none (key, id) = some block) :
      m (key, id) = some block := by
    rw [Function.update_apply] at held
    split at held
    · cases held
    · exact held
  cases back with
  | left => exact held
  | released => exact kept held
  | written node known home =>
    have before := kept held
    rwa [Memory.update_other (World.ne_of_ids home isHere foreign).symm] at before

/-- Other ranges of other devices show what they showed. -/
theorem spares (back : GivenBack w₀ key m r m') {range : Range} {owner : DeviceKey} {bytes : Bytes}
    (home : (w₀.devices.get? owner).map Device.id = some range.device)
    (foreign : range.device ≠ here)
    (apart : ∀ back, r.writeBack? = some back → Disjoint back.1.cells range.cells)
    (shows : range.Shows (m (owner, range.start.allocId)) bytes) :
    range.Shows (m' (owner, range.start.allocId)) bytes := by
  have other := World.ne_of_ids home isHere foreign
  cases back with
  | left => exact shows
  | released => rwa [Memory.update_other other]
  | @written node source scratch owner' data block known home' copy held lands =>
    rw [Memory.update_other other]
    by_cases same : (owner, range.start.allocId) = (owner', source.start.allocId)
    · obtain ⟨rfl, alloc⟩ := Prod.mk.inj same
      have device : source.device = range.device := Option.some.inj (home'.symm.trans home)
      rw [alloc, held] at shows
      rw [alloc, Function.update_self]
      exact shows.splice copy.2 device alloc.symm (apart _ rfl)
    · rwa [Function.update_of_ne same]

theorem arrives {node : Int} {source : Range} {scratch : Allocation}
    (back : GivenBack w₀ key m ⟨node, source, .copied scratch⟩ m')
    (foreign : source.device ≠ here) :
    ∃ owner bytes, w₀.registry.find? source.device = some owner ∧
      (w₀.devices.get? owner).map Device.id = some source.device ∧
      (scratch.range source.length).Shows (m (key, scratch.id)) bytes ∧
      source.Shows (m' (owner, source.start.allocId)) bytes := by
  cases back with
  | @written _ _ _ owner bytes block known home shows held lands =>
    have other := World.ne_of_ids home isHere foreign
    have length : bytes.length = source.length.toNat := shows.2
    refine ⟨owner, bytes, known, home, shows, ?_, length⟩
    rw [Memory.update_other other, Function.update_self, Option.map_some, ← length, lands]

end GivenBack

/-! ## Giving all of them back -/

/-- Memory is what giving back the ranges, one after the other, makes of it. -/
inductive Returned (w₀ : World) (key : DeviceKey) : Memory → List Route → Memory → Prop where
  | nothing (m : Memory) : Returned w₀ key m [] m
  | more {m m' m'' : Memory} {r : Route} {rest : List Route} (first : GivenBack w₀ key m r m')
    (later : Returned w₀ key m' rest m'') : Returned w₀ key m (r :: rest) m''

namespace Returned

variable {w₀ : World} {key : DeviceKey} {here : DeviceId} {m m' : Memory} {routes : List Route}
  (isHere : (w₀.devices.get? key).map Device.id = some here)

include isHere

theorem spares (returned : Returned w₀ key m routes m') {range : Range} {owner : DeviceKey}
    {bytes : Bytes}
    (home : (w₀.devices.get? owner).map Device.id = some range.device)
    (foreign : range.device ≠ here)
    (apart : ∀ back ∈ routes.filterMap Route.writeBack?, Disjoint back.1.cells range.cells)
    (shows : range.Shows (m (owner, range.start.allocId)) bytes) :
    range.Shows (m' (owner, range.start.allocId)) bytes := by
  induction returned with
  | nothing => exact shows
  | @more m m' m'' r rest first later ih =>
    refine ih (fun back member => apart back ?_) (first.spares isHere home foreign ?_ shows)
    · obtain ⟨route, inRest, writes⟩ := List.mem_filterMap.1 member
      exact List.mem_filterMap.2 ⟨route, List.mem_cons_of_mem _ inRest, writes⟩
    · exact fun back writes =>
        apart back (List.mem_filterMap.2 ⟨r, List.mem_cons_self, writes⟩)

/-- Where the ranges that are written back are disjoint, each of them shows in the end what its copy
showed in the beginning. -/
theorem each (returned : Returned w₀ key m routes m')
    (foreign : ∀ r ∈ routes, r.source.device ≠ here)
    (apart : (routes.filterMap Route.writeBack?).Pairwise fun a b => Disjoint a.1.cells b.1.cells)
    {r : Route} (member : r ∈ routes) {scratch : Allocation} (copied : r.access = .copied scratch) :
    ∃ owner bytes, w₀.registry.find? r.source.device = some owner ∧
      r.near.Shows (m (key, scratch.id)) bytes ∧
      r.source.Shows (m' (owner, r.source.start.allocId)) bytes := by
  induction returned with
  | nothing => cases member
  | @more m m' m'' first rest back later ih =>
    rcases List.mem_cons.1 member with rfl | member
    · -- It is written back now, and spared from then on.
      obtain ⟨node, source, access⟩ := r
      obtain rfl : access = .copied scratch := copied
      have away := foreign _ List.mem_cons_self
      obtain ⟨owner, bytes, known, home, shows, arrived⟩ := back.arrives isHere away
      refine ⟨owner, bytes, known, shows, later.spares isHere home away ?_ arrived⟩
      exact fun back member => (List.rel_of_pairwise_cons apart member).symm
    · -- The copy is not touched before it is its turn.
      have apart : (rest.filterMap Route.writeBack?).Pairwise fun a b =>
          Disjoint a.1.cells b.1.cells :=
        apart.sublist ((List.sublist_cons_self first rest).filterMap _)
      obtain ⟨owner, bytes, known, shows, arrived⟩ :=
        ih (fun r inRest => foreign r (List.mem_cons_of_mem _ inRest)) apart member
      obtain ⟨block, held, -⟩ := Option.map_eq_some_iff.1 shows.1
      have before := back.near isHere (foreign _ List.mem_cons_self) held
      rw [held, ← before] at shows
      exact ⟨owner, bytes, known, shows, arrived⟩

end Returned

/-! ## What any launching device does -/

namespace Host

theorem wp_allocate (params : AllocParams) (h : Host) :
    (allocate params).wp
      (fun alloc t => alloc.device = h.id ∧ params.size ≠ wholeSize ∧ t.assigned = h.assigned)
      (fun _ _ => True) h := by
  simp only [allocate, wp_bind, wp_checked, wp_get, wp_check, wp_pure, implies_true, and_true,
    true_and]
  intro _ fits _ _
  refine ⟨fun whole => ?_, rfl⟩
  rw [whole, checkBlock, if_pos (by decide)] at fits
  cases fits

end Host

namespace Remote

theorem wp_allocate (params : AllocParams) (s : Live Remote) :
    (allocate params).wp
      (fun alloc t => alloc.device = s.device.id ∧ params.size ≠ wholeSize ∧
        t.device.assigned = s.device.assigned ∧ t.platform.contents = s.platform.contents)
      (fun _ _ => True) s := by
  rw [allocate, wp_bind]
  refine (listens_receive _ s).ok ?_
  rintro _ t ⟨device, contents⟩
  simp only [wp_bind, wp_assert, Live.wp_self, wp_check, Live.wp_update, wp_pure, device,
    decide_eq_true_eq, implies_true, and_true]
  intro fits _ _
  refine ⟨trivial, fun whole => ?_, rfl, contents⟩
  rw [whole] at fits
  exact absurd fits (by decide)

theorem wp_launch (stream kernel : UInt32) (mapping : Mapping) (s : Live Remote) :
    (launch stream kernel mapping).wp
      (fun _ t => t.device.assigned = s.device.assigned ∧
        t.platform.contents = s.platform.contents)
      (fun _ _ => True) s := by
  rw [launch, wp_bind]
  refine (listens_receive _ s).ok ?_
  rintro _ t ⟨device, contents⟩
  obtain ⟨allocations, added⟩ := foldl_addToRange kernel.toUInt8 mapping.toList s.device
  rw [Live.wp_update, device, added]
  exact ⟨rfl, contents⟩

end Remote

namespace World

open LaunchInterface

variable {w₀ w : World} {key : DeviceKey} {here : DeviceId} {m m' : Memory} {s : LaunchRun World}

/-- A device that is no graphics processor may hold anything. -/
theorem Holds.other (h : Holds w₀ m w) {d d' : Device} (found : w.devices.get? key = some d)
    (isOther : d.isGpu = false) (badge : d'.badge = d.badge) {p : Platform}
    (contents : p.contents = w.platform.contents) : ∃ m', Holds w₀ m' (w.put key d' p) :=
  ⟨_, h.replace (.other h.housed found isOther badge contents)⟩

/-- Scratch memory is here, and not as long as anything can be. -/
theorem holds_scratch (h : Holds w₀ m w)
    (isHere : (w₀.devices.get? key).map Device.id = some here) (length : UInt64) :
    (allocate key (.deviceLocal length)).wp
      (fun alloc t => alloc.device = here ∧ length ≠ wholeSize ∧ ∃ m', Holds w₀ m' t)
      (fun _ _ => True) w := by
  have badges := h.badges key
  rw [← h.ids] at isHere
  cases found : w.devices.get? key with
  | none =>
    rw [found] at isHere
    cases isHere
  | some d =>
    rw [found] at isHere badges
    obtain rfl := Option.some.inj isHere
    cases d with
    | host host =>
      rw [allocate, wp_onDevice, found]
      refine (Host.wp_allocate _ host).ok ?_
      rintro alloc t ⟨device, sized, assigned⟩
      have badge : (Device.host t).badge = (Device.host host).badge :=
        Device.badge_congr rfl assigned
      exact ⟨device, sized, h.other found rfl badge rfl⟩
    | gpu g =>
      refine (holds_allocate h badges.symm length).ok ?_
      rintro alloc t ⟨device, sized, -, h⟩
      exact ⟨device, sized, _, h⟩
    | remote remote =>
      rw [allocate, wp_onDevice, found]
      refine (Remote.wp_allocate _ ⟨w.platform, remote⟩).ok ?_
      rintro alloc t ⟨device, sized, assigned, contents⟩
      have badge : (Device.remote t.device).badge = (Device.remote remote).badge :=
        Device.badge_congr rfl assigned
      exact ⟨device, sized, h.other found rfl badge contents⟩

theorem holds_kernel (h : Holds w₀ m w) (key : DeviceKey) (stream kernel : UInt32)
    (mapping : Mapping) :
    (launchLocal key stream kernel mapping).wp (fun _ t => ∃ m', Holds w₀ m' t)
      (fun _ _ => True) w := by
  rw [launchLocal, wp_onDevice]
  cases found : w.devices.get? key with
  | none => trivial
  | some d =>
    cases d with
    | host host => trivial
    | gpu g =>
      refine (Gpu.still_launchLocal stream kernel mapping _).ok ?_
      exact fun _ s step => ⟨m, h.gpu_still found step⟩
    | remote remote =>
      refine (Remote.wp_launch stream kernel mapping ⟨w.platform, remote⟩).ok ?_
      rintro _ t ⟨assigned, contents⟩
      have badge : (Device.remote t.device).badge = (Device.remote remote).badge :=
        Device.badge_congr rfl assigned
      exact h.other found rfl badge contents

theorem wp_noted_aside {α : Type} {call : LaunchCall} {answer : α → LaunchAnswer}
    {a : Action World α} {Q : α → World → Prop} (other : call.isRun = false)
    (kept : call.writeBack? = none) (h : a.wp Q (fun _ _ => True) s.state) :
    (noted call answer a).wp (fun x t => Q x t.state ∧ t.told = s.told) (fun _ _ => True) s := by
  rw [wp_noted]
  exact h.ok fun x t holds => ⟨holds, told_noted other kept ..⟩

/-- A device shows a range through a pointer, or it does not; nothing changes. -/
theorem looks_localAlias (key : DeviceKey) (range : Range) : (localAlias key range).Evolves Eq :=
  (evolves_device key).bind fun d => by cases d <;> exact .pure _

theorem looks_isAlias (key : DeviceKey) (pointer : Pointer) : (isAlias key pointer).Evolves Eq :=
  (evolves_device key).bind fun d => by cases d <;> exact .pure _

/-! ## The phases of any launch -/

theorem wp_makeNear (h : Holds w₀ m s.state)
    (isHere : (w₀.devices.get? key).map Device.id = some here) (node : Int) {range : Range}
    (foreign : range.device ≠ here) :
    ((launchInterface key).traced.localize node range).wp
      (fun entry t => ∃ (r : Route) (m' : Memory), r.node = node ∧ r.source = range ∧
        entry = r.entry ∧ r.Foreign here ∧ Holds w₀ m' t.state ∧ t.told = s.told)
      (fun _ _ => True) s := by
  rw [localize, wp_bind, wp_traced_find]
  refine (holds_find h range.device).ok ?_
  rintro owner u ⟨-, h⟩
  rw [wp_bind]
  refine (wp_noted_aside rfl rfl ((looks_localAlias key range u).ok fun _ _ => id)).ok ?_
  rintro seen t ⟨rfl, told⟩
  cases seen with
  | some pointer =>
    refine ⟨⟨node, range, .shared pointer⟩, m, rfl, rfl, rfl, ⟨foreign, ?_⟩, h, told⟩
    rintro _ ⟨⟩
  | none =>
    simp only [wp_bind]
    refine (wp_noted_aside rfl rfl (holds_scratch h isHere range.length)).ok ?_
    rintro scratch t' ⟨⟨device, sized, m', h⟩, told'⟩
    have apart : (scratch.range range.length).start.device ≠ range.device := by
      intro same
      exact foreign (same.symm.trans device)
    refine (wp_noted_aside rfl rfl (holds_transfer h key owner apart sized)).ok ?_
    rintro _ t'' ⟨⟨bytes, block, -, -, -, h, -⟩, told''⟩
    refine ⟨⟨node, range, .copied scratch⟩, _, rfl, rfl, rfl, ⟨foreign, ?_⟩, h,
      told''.trans (told'.trans told)⟩
    rintro _ ⟨⟩
    exact ⟨device, sized⟩

theorem wp_makeAllNear (h : Holds w₀ m s.state)
    (isHere : (w₀.devices.get? key).map Device.id = some here) (entries : List (Int × Range)) :
    ((launchInterface key).traced.localizeEach here entries).wp
      (fun localized t => ∃ (routes : List Route) (m' : Memory),
        Localized here entries routes localized.1 ∧ localized.2 = routes.map Route.entry ∧
        (∀ r ∈ routes, r.Foreign here) ∧ Holds w₀ m' t.state ∧ t.told = s.told)
      (fun _ _ => True) s := by
  induction entries generalizing m s with
  | nil => exact ⟨[], m, .nil, rfl, nofun, h, rfl⟩
  | cons entry rest ih =>
    obtain ⟨node, range⟩ := entry
    rw [localizeEach]
    by_cases isNear : range.device = here
    · rw [if_pos isNear, wp_bind]
      refine (ih h).ok ?_
      rintro ⟨near, _⟩ t ⟨routes, m', follows, rfl, foreign, h, told⟩
      exact ⟨routes, m', .kept isNear follows, rfl, foreign, h, told⟩
    · rw [if_neg isNear, wp_bind]
      refine (wp_makeNear h isHere node isNear).ok ?_
      rintro _ t ⟨r, m', rfl, rfl, rfl, first, h, told⟩
      rw [wp_bind]
      refine (ih h).ok ?_
      rintro ⟨near, _⟩ t' ⟨routes, m'', follows, rfl, foreign, h, told'⟩
      refine ⟨r :: routes, m'', .moved r isNear follows, rfl, ?_, h, told'.trans told⟩
      exact List.forall_mem_cons.2 ⟨first, foreign⟩

/-- A range is given back: if it was copied, the copy is written back to it. -/
theorem wp_handBack {r : Route} (h : Holds w₀ m s.state) (foreign : r.Foreign here) :
    ((launchInterface key).traced.giveBack r.entry).wp
      (fun _ t => ∃ m', GivenBack w₀ key m r m' ∧ Holds w₀ m' t.state ∧
        t.told = (s.runs, s.writeBacks ++ r.writeBack?.toList))
      (fun _ _ => True) s := by
  obtain ⟨node, source, access⟩ := r
  have silent {t : LaunchRun World} (told : t.told = s.told) :
      t.told = (s.runs, s.writeBacks ++ []) := by
    rw [List.append_nil]
    exact told
  cases access with
  | shared pointer =>
    simp only [giveBack, Route.entry, wp_bind]
    refine (wp_noted_aside rfl rfl ((looks_isAlias key pointer s.state).ok fun _ _ => id)).ok ?_
    rintro owned t ⟨same, told⟩
    rw [same] at h
    cases owned with
    | false => exact ⟨m, .left .., h, silent told⟩
    | true =>
      refine (wp_noted_aside rfl rfl (holds_deallocate h key pointer.allocation)).ok ?_
      rintro _ t' ⟨h, told'⟩
      exact ⟨_, .released .., h, silent (told'.trans told)⟩
  | copied scratch =>
    obtain ⟨device, sized⟩ := foreign.copied scratch rfl
    have apart : source.start.device ≠ (scratch.range source.length).device := by
      intro same
      exact foreign.foreign (same.trans device)
    simp only [giveBack, Route.entry]
    rw [wp_bind, wp_traced_find]
    refine (holds_find h source.device).ok ?_
    rintro owner u ⟨known, h⟩
    rw [wp_bind]
    refine wp_noted.2 ((holds_transfer h owner key apart sized).ok ?_)
    rintro _ t ⟨bytes, block, shows, -, held, h, lands, home⟩
    refine (wp_noted_aside rfl rfl (holds_deallocate h key scratch)).ok ?_
    rintro _ t' ⟨h, told⟩
    refine ⟨_, .written node known home shows held lands, h, told.trans ?_⟩
    simp [LaunchRun.told, LaunchRun.runs, LaunchRun.writeBacks, LaunchCall.isRun,
      LaunchCall.writeBack?, Route.writeBack?, Route.near, Allocation.range]

theorem wp_handBacks (routes : List Route) (foreign : ∀ r ∈ routes, r.Foreign here)
    (h : Holds w₀ m s.state) :
    ((routes.map Route.entry).forM (launchInterface key).traced.giveBack).wp
      (fun _ t => ∃ m', Returned w₀ key m routes m' ∧ Holds w₀ m' t.state ∧
        t.told = (s.runs, s.writeBacks ++ routes.filterMap Route.writeBack?))
      (fun _ _ => True) s := by
  induction routes generalizing m s with
  | nil =>
    refine ⟨m, .nothing m, h, ?_⟩
    rw [List.filterMap_nil, List.append_nil]
    rfl
  | cons r rest ih =>
    obtain ⟨first, others⟩ := List.forall_mem_cons.1 foreign
    refine (wp_bind _ _).2 ((wp_handBack h first).ok ?_)
    rintro _ t ⟨m', back, h, told⟩
    refine (ih others h).ok ?_
    rintro _ t' ⟨m'', returned, h, told'⟩
    obtain ⟨runs, writeBacks⟩ := Prod.mk.inj told
    refine ⟨m'', .more back returned, h, ?_⟩
    rw [told', runs, writeBacks, List.append_assoc]
    cases writes : r.writeBack? with
    | none => rw [List.filterMap_cons_none writes]; rfl
    | some back => rw [List.filterMap_cons_some writes]; rfl

theorem wp_launchAnywhere (h : Holds w₀ m s.state)
    (isHere : (w₀.devices.get? key).map Device.id = some here) (stream kernel : UInt32)
    (mapping : Mapping) :
    ((launchInterface key).traced.launch here stream kernel mapping).wp
      (fun _ t => ∃ near routes w₁ w₂ m' m'',
        Localized here mapping.toList routes near.toList ∧
        (∀ r ∈ routes, r.Foreign here) ∧
        (launchLocal key stream kernel near).outcome w₁ = (.ok (), w₂) ∧
        t.told = (s.runs ++ [⟨.run stream kernel near, w₁, .ok .done⟩],
          s.writeBacks ++ routes.filterMap Route.writeBack?) ∧
        Holds w₀ m' w₂ ∧ Returned w₀ key m' routes m'' ∧ Holds w₀ m'' t.state)
      (fun _ _ => True) s := by
  rw [LaunchInterface.launch, localizeAll_eq]
  simp only [wp_bind]
  refine (wp_makeAllNear h isHere mapping.toList).ok ?_
  rintro ⟨near, _⟩ t ⟨routes, m₁, follows, rfl, foreign, h, told⟩
  simp only [wp_pure]
  -- The kernel may leave anything in memory, so that what is given back is told from after it.
  refine (quiet_waits _ quiet_await t).ok ?_
  rintro _ t₁ quiet
  have h₁ := quiet.still w₀ m₁ h
  refine wp_noted.2 (((holds_kernel h₁ key stream kernel _).and (wp_outcome _ _)).ok ?_)
  rintro _ w₂ ⟨⟨m₂, h₂⟩, ran⟩
  refine (wp_handBacks routes foreign h₂).ok ?_
  rintro _ t₃ ⟨m₃, returned, h₃, told₃⟩
  refine (quiet_waits _ quiet_publish t₃).ok ?_
  rintro _ t₄ quiet₄
  refine ⟨SortedMap.ofList near, routes, t₁.state, w₂, m₂, m₃, ?_, foreign, ran, ?_, h₂, returned,
    quiet₄.still w₀ m₃ h₃⟩
  · rw [SortedMap.toList_ofList (follows.sorted mapping.sorted)]
    exact follows
  · obtain ⟨runs, writeBacks⟩ := Prod.mk.inj (quiet.told.trans told)
    rw [quiet₄.told, told₃, ← runs, ← writeBacks]
    simp [LaunchRun.runs, LaunchRun.writeBacks, LaunchCall.isRun, LaunchCall.writeBack?]

/-! ## The write-backs of a launch -/

theorem found_of_launch {w' : World} {stream kernel : UInt32} {mapping : Mapping}
    (ended : (launch key stream kernel mapping).outcome w = (.ok (), w')) :
    ∃ d, w.devices.get? key = some d := by
  have looked : (launch key stream kernel mapping).wp (fun _ _ => ∃ d, w.devices.get? key = some d)
      (fun _ _ => True) w := by
    simp only [launch, device, wp_bind, wp_get, wp_orRefuse, implies_true, and_true]
    intro d found
    exact (Evolves.any _ w).ok fun _ _ _ => ⟨d, found⟩
  exact looked.ended ended

/-- A launch that ends well writes back, in node order, the foreign ranges that it copied, each from
a copy of its own. Where these are disjoint, each holds in the end what its copy held when the
kernel was done. -/
theorem write_backs {w' : World} {stream kernel : UInt32} {mapping : Mapping}
    (reachable : w.Reachable)
    (ended : (launch key stream kernel mapping).outcome w = (.ok (), w')) :
    ∃ d run near routes w₁ w₂, w.devices.get? key = some d ∧
      ((launchInterface key).traced.launch d.id stream kernel mapping).outcome { state := w } =
        (.ok (), run) ∧ run.state = w' ∧
      Localized d.id mapping.toList routes near.toList ∧
      run.runs = [⟨.run stream kernel near, w₁, .ok .done⟩] ∧
      (launchLocal key stream kernel near).outcome w₁ = (.ok (), w₂) ∧
      run.writeBacks = routes.filterMap Route.writeBack? ∧
      (run.writeBacks.Pairwise (fun a b => Disjoint a.1.cells b.1.cells) →
        ∀ r ∈ routes, ∀ scratch, r.access = .copied scratch →
          ∃ owner bytes, w.registry.find? r.source.device = some owner ∧
            r.near.Shows (w₂.memory (key, scratch.id)) bytes ∧
            r.source.Shows (w'.memory (owner, r.source.start.allocId)) bytes) := by
  obtain ⟨d, found⟩ := found_of_launch ended
  obtain ⟨run, whole, state⟩ := traced_of_launch found ended
  have start : Holds w w.memory w := ⟨rfl, fun _ => rfl, rfl, reachable.housed, rfl⟩
  have isHere : (w.devices.get? key).map Device.id = some d.id := by
    rw [found]
    rfl
  obtain ⟨near, routes, w₁, w₂, m', m'', follows, foreign, ran, told, h₂, returned, h⟩ :=
    (wp_launchAnywhere start isHere stream kernel mapping).ended whole
  obtain ⟨runs, writeBacks⟩ := Prod.mk.inj told
  refine ⟨d, run, near, routes, w₁, w₂, found, whole, state, follows, runs, ran, writeBacks, ?_⟩
  intro apart r member scratch copied
  rw [writeBacks] at apart
  rw [← state, h₂.memory, h.memory]
  exact returned.each isHere (fun r member => (foreign r member).foreign) apart member copied

/-- Host memory with four bytes in it, and a device behind a transport. -/
def reached : World :=
  World.after {}
    [.addHost 64, .addRemote {}, .register 0, .register 1, .allocate 0 (.hostVisible 4)]

/-- Two nodes see the two halves of four bytes on a device. -/
def halves (device : DeviceId) : Mapping :=
  .ofList [(0, ⟨⟨device, 0, 0⟩, 2⟩), (1, ⟨⟨device, 0, 2⟩, 2⟩)]

/-- Two nodes see three of four bytes each. -/
def overlapping (device : DeviceId) : Mapping :=
  .ofList [(0, ⟨⟨device, 0, 0⟩, 3⟩), (1, ⟨⟨device, 0, 1⟩, 3⟩)]

theorem write_backs_apart :
    ∃ (w' w₂ : World) (run : LaunchRun World) (routes : List Route), reached.Reachable ∧
      (launch 1 0 7 (halves ⟨0⟩)).outcome reached = (.ok (), w') ∧ run.state = w' ∧
      run.writeBacks = routes.filterMap Route.writeBack? ∧
      run.writeBacks =
        [(⟨⟨⟨0⟩, 0, 0⟩, 2⟩, ⟨⟨⟨1⟩, 0, 0⟩, 2⟩), (⟨⟨⟨0⟩, 0, 2⟩, 2⟩, ⟨⟨⟨1⟩, 1, 0⟩, 2⟩)] ∧
      ∀ r ∈ routes, ∀ scratch, r.access = .copied scratch →
        ∃ owner bytes, reached.registry.find? r.source.device = some owner ∧
          r.near.Shows (w₂.memory (1, scratch.id)) bytes ∧
          r.source.Shows (w'.memory (owner, r.source.start.allocId)) bytes := by
  have reachable : reached.Reachable := Reachable.new.after _
  have ended := outcome_of_isOk (a := launch 1 0 7 (halves ⟨0⟩)) (s := reached) (by decide +kernel)
  have ids : (reached.devices.get? 1).map Device.id = some ⟨1⟩ := by decide +kernel
  have written : (((launchInterface 1).traced.launch ⟨1⟩ 0 7 (halves ⟨0⟩)).outcome
      { state := reached }).2.writeBacks =
        [(⟨⟨⟨0⟩, 0, 0⟩, 2⟩, ⟨⟨⟨1⟩, 0, 0⟩, 2⟩), (⟨⟨⟨0⟩, 0, 2⟩, 2⟩, ⟨⟨⟨1⟩, 1, 0⟩, 2⟩)] := by
    decide +kernel
  obtain ⟨d, run, -, routes, -, w₂, found, whole, state, -, -, -, writeBacks, each⟩ :=
    write_backs reachable ended
  rw [found] at ids
  rw [Option.some.inj ids] at whole
  rw [whole] at written
  have disjoint : Disjoint (Range.cells ⟨⟨⟨0⟩, 0, 0⟩, 2⟩) (Range.cells ⟨⟨⟨0⟩, 0, 2⟩, 2⟩) :=
    (Range.disjoint_iff (by rfl) (by rfl)).2 (by decide)
  have apart : run.writeBacks.Pairwise fun a b => Disjoint a.1.cells b.1.cells := by
    rw [written]
    exact List.pairwise_pair.2 disjoint
  exact ⟨_, w₂, run, routes, reachable, ended, state, writeBacks, written, each apart⟩

/-- Over memory of another device, two nodes lose what one of them did to the bytes that they share.
Over memory of its own, where they share the memory itself, they do not. -/
theorem write_backs_overlap :
    ∃ (w' : World) (run : LaunchRun World), reached.Reachable ∧
      (launch 1 0 7 (overlapping ⟨0⟩)).outcome reached = (.ok (), w') ∧
      ((launchInterface 1).traced.launch ⟨1⟩ 0 7 (overlapping ⟨0⟩)).outcome { state := reached } =
        (.ok (), run) ∧
      ¬ run.writeBacks.Pairwise (fun a b => Disjoint a.1.cells b.1.cells) ∧
      w'.memory (0, 0) = some [7, 7, 7, 7] ∧
      (reached.after [.allocate 1 (.hostVisible 4), .launch 1 0 7 (overlapping ⟨1⟩)]).memory
        (1, 0) = some [7, 14, 14, 7] := by
  have written : (((launchInterface 1).traced.launch ⟨1⟩ 0 7 (overlapping ⟨0⟩)).outcome
      { state := reached }).2.writeBacks =
        [(⟨⟨⟨0⟩, 0, 0⟩, 3⟩, ⟨⟨⟨1⟩, 0, 0⟩, 3⟩), (⟨⟨⟨0⟩, 0, 1⟩, 3⟩, ⟨⟨⟨1⟩, 1, 0⟩, 3⟩)] := by
    decide +kernel
  refine ⟨_, _, Reachable.new.after _, outcome_of_isOk (by decide +kernel),
    outcome_of_isOk (by decide +kernel), ?_, by decide +kernel, by decide +kernel⟩
  rw [written]
  intro apart
  have disjoint := List.pairwise_pair.1 apart
  exact absurd ((Range.disjoint_iff (by rfl) (by rfl)).1 disjoint) (by decide)

end World

end DeviceLayer
