import DeviceLayer.Proofs.Submissions
import Mathlib.Data.List.Nodup

/-!
# Custody of command buffers and descriptor sets

Each command buffer and each descriptor set that was made is in exactly one place. What a device
does to its lists moves things from place to place.

* `Gpu.Custody.Conserved` — the places, and that each thing is in one of them.
* `Gpu.newList_conserves`, `allocSet_conserves`, `release_conserves`, `releaseMarked_conserves`,
  `reclaimed_conserves` — the moves.
-/

namespace DeviceLayer

open DeviceLayer.Action

namespace Gpu

namespace Custody

/-- Every command buffer that was made is free, pending or held by a list, and in one of these
places only; so is every descriptor set. What is in flight is what is pending. -/
structure Conserved (k : Custody) (lists : List CommandList) : Prop where
  buffers : ∀ b : CommandBufferId,
    (k.tracker.free ++ k.tracker.pendingBuffers ++ lists.map (·.buffer)).count b =
      if b.index < k.nextCommandBuffer then 1 else 0
  inFlight : k.tracker.inFlight.map (·.1) = k.tracker.pendingBuffers.reverse
  sets : ∀ (layout : CacheHandle) (slot : UInt32),
    (k.pools layout).free.count slot +
        (k.tracker.pendingSets ++ lists.flatMap (·.sets)).count ⟨layout, slot⟩ =
      if slot.toNat < (k.pools layout).allocated then 1 else 0
  bounded : ∀ layout, (k.pools layout).capacity = defaultPoolCapacity ∧
    (k.pools layout).allocated ≤ defaultPoolCapacity

namespace Conserved

variable {k : Custody} {list : CommandList} {lists lists' : List CommandList}

theorem perm (h : k.Conserved lists) (same : lists.Perm lists') : k.Conserved lists' where
  buffers b := by
    rw [← h.buffers b]
    exact (((same.map _).append_left _).count_eq b).symm
  inFlight := h.inFlight
  sets layout slot := by
    rw [← h.sets layout slot]
    exact congrArg _ (((same.flatMap_right _).append_left _).count_eq _).symm
  bounded := h.bounded

/-- Only the buffer and the sets of a list count. -/
theorem replace {list' : CommandList} (h : k.Conserved (list :: lists))
    (buffer : list'.buffer = list.buffer) (sets : list'.sets = list.sets) :
    k.Conserved (list' :: lists) where
  buffers b := by
    rw [← h.buffers b, List.map_cons, List.map_cons, buffer]
  inFlight := h.inFlight
  sets layout slot := by
    rw [← h.sets layout slot, List.flatMap_cons, List.flatMap_cons, sets]
  bounded := h.bounded

theorem buffer_once (h : k.Conserved lists) (b : CommandBufferId) :
    k.tracker.free.count b + k.tracker.pendingBuffers.count b +
      (lists.map (·.buffer)).count b ≤ 1 := by
  have counted := h.buffers b
  simp only [List.count_append] at counted
  split at counted <;> omega

theorem set_once (h : k.Conserved lists) (layout : CacheHandle) (slot : UInt32) :
    (k.pools layout).free.count slot + k.tracker.pendingSets.count ⟨layout, slot⟩ +
      (lists.flatMap (·.sets)).count ⟨layout, slot⟩ ≤ 1 := by
  have counted := h.sets layout slot
  simp only [List.count_append] at counted
  split at counted <;> omega

theorem buffer_not_pending (h : k.Conserved (list :: lists)) :
    list.buffer ∉ k.tracker.pendingBuffers := by
  have once := h.buffer_once list.buffer
  rw [List.map_cons, List.count_cons_self] at once
  exact List.count_eq_zero.1 (by omega)

theorem pendingBuffer_apart (h : k.Conserved lists) {b : CommandBufferId}
    (pending : b ∈ k.tracker.pendingBuffers) :
    b ∉ k.tracker.free ∧ b ∉ lists.map (·.buffer) := by
  have once := h.buffer_once b
  have counted := List.count_pos_iff.2 pending
  exact ⟨List.count_eq_zero.1 (by omega), List.count_eq_zero.1 (by omega)⟩

theorem pendingSet_apart (h : k.Conserved lists) {set : SetHandle}
    (pending : set ∈ k.tracker.pendingSets) :
    set.set ∉ (k.pools set.layout).free ∧ set ∉ lists.flatMap (·.sets) := by
  obtain ⟨layout, slot⟩ := set
  have once := h.set_once layout slot
  have counted := List.count_pos_iff.2 pending
  show slot ∉ (k.pools layout).free ∧ _
  exact ⟨List.count_eq_zero.1 (by omega), List.count_eq_zero.1 (by omega)⟩

theorem pendingBuffers_nodup (h : k.Conserved lists) : k.tracker.pendingBuffers.Nodup := by
  refine List.nodup_iff_count_le_one.2 fun b => ?_
  have once := h.buffer_once b
  omega

theorem pendingSets_nodup (h : k.Conserved lists) : k.tracker.pendingSets.Nodup := by
  refine List.nodup_iff_count_le_one.2 fun set => ?_
  obtain ⟨layout, slot⟩ := set
  have once := h.set_once layout slot
  omega

/-- A list that was not queued is not in flight. -/
theorem idle (h : k.Conserved (list :: lists)) : k.tracker.isInFlight list.buffer = false := by
  -- What is in flight is what is pending, and the buffer counts as held already.
  have absent : list.buffer ∉ k.tracker.inFlight.map (·.1) := by
    rw [h.inFlight, List.mem_reverse]
    exact h.buffer_not_pending
  refine List.any_eq_false.2 fun e member => ?_
  have apart : e.1 ≠ list.buffer := fun same => absent (same ▸ List.mem_map_of_mem member)
  exact fun same => apart (of_decide_eq_true same)

/-- The sets that are held somewhere were made by a known layout. -/
theorem known (h : k.Conserved lists) {set : SetHandle}
    (member : set ∈ k.tracker.pendingSets ++ lists.flatMap (·.sets)) :
    0 < (k.pools set.layout).allocated := by
  obtain ⟨layout, slot⟩ := set
  have counted := h.sets layout slot
  have positive := List.count_pos_iff.2 member
  split at counted
  · exact Nat.zero_lt_of_lt ‹_›
  · exact absurd counted (by omega)

end Conserved

end Custody

/-! ## Putting sets back -/

@[simp] theorem recycleSets_connection (sets : List SetHandle) (g : Gpu) :
    (recycleSets sets g).connection = g.connection := by
  obtain ⟨layouts, recycled⟩ := recycleSets_eq sets g
  rw [recycled]

@[simp] theorem recycleSets_tracker (sets : List SetHandle) (g : Gpu) :
    (recycleSets sets g).tracker = g.tracker := by
  obtain ⟨layouts, recycled⟩ := recycleSets_eq sets g
  rw [recycled]

@[simp] theorem recycleSets_nextCommandBuffer (sets : List SetHandle) (g : Gpu) :
    (recycleSets sets g).nextCommandBuffer = g.nextCommandBuffer := by
  obtain ⟨layouts, recycled⟩ := recycleSets_eq sets g
  rw [recycled]

theorem known_of_allocated {g : Gpu} {layout : CacheHandle}
    (made : 0 < (g.poolOf layout).allocated) : g.layouts.get? layout ≠ none := by
  intro unknown
  simp [poolOf, unknown] at made

theorem poolOf_modify (g : Gpu) (layout other : CacheHandle)
    (f : DescriptorPool UInt32 → DescriptorPool UInt32) (known : g.layouts.get? layout ≠ none) :
    poolOf { g with layouts := g.layouts.modify layout fun e => { e with pool := f e.pool } }
        other =
      if other = layout then f (g.poolOf layout) else g.poolOf other := by
  simp only [poolOf, ObjectCache.get?_modify]
  split
  · rename_i same
    subst same
    cases entry : g.layouts.get? other with
    | none => exact absurd entry known
    | some e => rfl
  · rfl

theorem poolOf_recycleSet {g : Gpu} {set : SetHandle}
    (made : 0 < (g.poolOf set.layout).allocated) (layout : CacheHandle) :
    (recycleSet set g).poolOf layout =
      if layout = set.layout then (g.poolOf set.layout).recycle set.set else g.poolOf layout :=
  poolOf_modify g set.layout layout (·.recycle set.set) (known_of_allocated made)

/-- The pool of a layout after sets were put back: only its free sets have grown. -/
structure Refilled (sets : List SetHandle) (layout : CacheHandle)
    (p p' : DescriptorPool UInt32) : Prop where
  capacity : p'.capacity = p.capacity
  allocated : p'.allocated = p.allocated
  free : ∀ slot, p'.free.count slot = p.free.count slot + sets.count ⟨layout, slot⟩

theorem refilled_recycleSet {g : Gpu} {set : SetHandle}
    (made : 0 < (g.poolOf set.layout).allocated) (layout : CacheHandle) :
    Refilled [set] layout (g.poolOf layout) ((recycleSet set g).poolOf layout) := by
  rw [poolOf_recycleSet made]
  split
  · rename_i same
    subst same
    refine ⟨rfl, rfl, fun slot => ?_⟩
    obtain ⟨layout, recycled⟩ := set
    simp [DescriptorPool.recycle, List.count_cons]
  · rename_i other
    refine ⟨rfl, rfl, fun slot => ?_⟩
    have apart : set ≠ ⟨layout, slot⟩ := fun same => other (congrArg SetHandle.layout same).symm
    simp [apart]

theorem refilled_recycleSets {sets : List SetHandle} {g : Gpu}
    (made : ∀ set ∈ sets, 0 < (g.poolOf set.layout).allocated) (layout : CacheHandle) :
    Refilled sets layout (g.poolOf layout) ((recycleSets sets g).poolOf layout) := by
  induction sets generalizing g with
  | nil => exact ⟨rfl, rfl, fun _ => rfl⟩
  | cons set sets ih =>
    have first (layout : CacheHandle) :=
      refilled_recycleSet (made set (List.mem_cons_self ..)) layout
    have rest : Refilled sets layout ((recycleSet set g).poolOf layout)
        ((recycleSets sets (recycleSet set g)).poolOf layout) := by
      refine ih fun other member => ?_
      rw [(first _).allocated]
      exact made other (List.mem_cons_of_mem _ member)
    refine ⟨rest.capacity.trans (first _).capacity, rest.allocated.trans (first _).allocated,
      fun slot => ?_⟩
    have counted := rest.free slot
    rw [(first _).free slot] at counted
    rw [recycleSets, List.foldl_cons, ← recycleSets, counted, List.count_cons, List.count_cons,
      List.count_nil]
    omega

/-- Sets go back to their pools from where they were pending. -/
theorem recycleSets_conserves {g : Gpu} {sets : List SetHandle} {lists : List CommandList}
    (h : { g.custody with
      tracker.pendingSets := sets ++ g.tracker.pendingSets }.Conserved lists) :
    (recycleSets sets g).custody.Conserved lists := by
  -- A set that was never made would be put back into no pool, and so be lost.
  have made (set : SetHandle) (member : set ∈ sets) : 0 < (g.poolOf set.layout).allocated :=
    h.known (List.mem_append_left _ (List.mem_append_left _ member))
  have refilled := refilled_recycleSets made
  refine ⟨fun b => ?_, ?_, fun layout slot => ?_, fun layout => ?_⟩
  · simp only [custody, recycleSets_tracker, recycleSets_nextCommandBuffer]
    exact h.buffers b
  · simp only [custody, recycleSets_tracker]
    exact h.inFlight
  · simp only [custody, recycleSets_tracker, (refilled layout).free, (refilled layout).allocated]
    refine Eq.trans ?_ (h.sets layout slot)
    simp only [custody, List.count_append]
    omega
  · simp only [custody, (refilled layout).capacity, (refilled layout).allocated]
    exact h.bounded layout

/-! ## Moves from place to place -/

theorem lt_succ_count (made n : Nat) :
    (if n < made + 1 then 1 else 0) = (if n < made then 1 else 0) + if made = n then 1 else 0 := by
  split <;> split <;> split <;> omega

theorem lt_succ_number {next : UInt32} (room : next ≠ 0xFFFFFFFF) (b : CommandBufferId) :
    (if b.index < next + 1 then 1 else 0) =
      (if b.index < next then 1 else 0) + if (⟨next⟩ : CommandBufferId) == b then 1 else 0 := by
  have small : next.toNat < 2 ^ 32 - 1 := by
    have bound := next.toNat_lt
    have apart : next.toNat ≠ 2 ^ 32 - 1 := fun same => room (UInt32.toNat_inj.1 same)
    omega
  -- The next number does not wrap around.
  have after : (next + 1).toNat = next.toNat + 1 := by
    rw [UInt32.toNat_add, UInt32.toNat_one, Nat.mod_eq_of_lt (by omega)]
  obtain ⟨index⟩ := b
  simp only [UInt32.lt_iff_toNat_lt, after, beq_iff_eq, CommandBufferId.mk.injEq,
    ← UInt32.toNat_inj]
  exact lt_succ_count _ _

/-- A new list takes its buffer from the free ones, or makes it. -/
theorem newList_conserves {s : Live Gpu} {lists : List CommandList}
    (h : s.device.custody.Conserved lists) :
    newList.wp (fun list t => t.device.custody.Conserved (list :: lists))
      (fun _ t => t.device.custody.Conserved lists) s := by
  rw [wp_newList]
  cases free : s.device.tracker.free with
  | cons buffer rest =>
    refine ⟨fun b => ?_, h.inFlight, h.sets, h.bounded⟩
    refine Eq.trans ?_ (h.buffers b)
    simp only [custody, free, List.map_cons, List.count_append, List.count_cons]
    omega
  | nil =>
    simp only
    split
    · exact h
    · rename_i room
      refine ⟨fun b => ?_, h.inFlight, h.sets, h.bounded⟩
      refine Eq.trans ?_ ((congrArg (· + _) (h.buffers b)).trans (lt_succ_number room b).symm)
      simp only [custody, List.map_cons, List.count_append, List.count_cons]
      omega

@[simp] theorem releaseList_connection (list : CommandList) (g : Gpu) :
    (releaseList list g).connection = g.connection := by
  simp [releaseList]

@[simp] theorem releaseList_inFlight (list : CommandList) (g : Gpu) :
    (releaseList list g).tracker.inFlight = g.tracker.inFlight := by
  simp only [releaseList, SubmissionTracker.release, recycleSets_tracker]
  split <;> rfl

theorem tracker_releaseList_idle {g : Gpu} {list : CommandList}
    (idle : g.tracker.isInFlight list.buffer = false) :
    (releaseList list g).tracker = { g.tracker with free := list.buffer :: g.tracker.free } := by
  simp [releaseList, SubmissionTracker.release, idle]

/-- A list that was just queued is pending, with its sets. -/
theorem releaseList_marked (list : CommandList) (g : Gpu) (fence : Platform.Fence) :
    releaseList list
        { g with tracker.inFlight := g.tracker.inFlight ++ [(list.buffer, fence)] } =
      { g with tracker := {
        free := g.tracker.free
        inFlight := g.tracker.inFlight ++ [(list.buffer, fence)]
        pendingBuffers := list.buffer :: g.tracker.pendingBuffers
        pendingSets := g.tracker.pendingSets ++ list.sets } } := by
  simp [releaseList, SubmissionTracker.release, SubmissionTracker.isInFlight, recycleSets]

/-- A list that was not queued frees its buffer and its sets. -/
theorem release_conserves {g : Gpu} {list : CommandList} {lists : List CommandList}
    (h : g.custody.Conserved (list :: lists)) :
    (releaseList list g).custody.Conserved lists := by
  have idle : g.tracker.isInFlight list.buffer = false := h.idle
  simp only [releaseList, SubmissionTracker.release, idle, Bool.false_eq_true, if_false]
  refine recycleSets_conserves ⟨fun b => ?_, h.inFlight, fun layout slot => ?_, h.bounded⟩
  · refine Eq.trans ?_ (h.buffers b)
    simp only [custody, List.map_cons, List.count_append, List.count_cons]
    omega
  · refine Eq.trans ?_ (h.sets layout slot)
    simp only [custody, poolOf, List.flatMap_cons, List.count_append]
    omega

theorem releaseMarked_conserves {g : Gpu} {list : CommandList} {lists : List CommandList}
    (h : g.custody.Conserved (list :: lists)) (fence : Platform.Fence) :
    (releaseList list
      { g with tracker.inFlight := g.tracker.inFlight ++ [(list.buffer, fence)] }).custody.Conserved
        lists := by
  rw [releaseList_marked]
  refine ⟨fun b => ?_, ?_, fun layout slot => ?_, h.bounded⟩
  · refine Eq.trans ?_ (h.buffers b)
    simp only [custody, List.map_cons, List.count_append, List.count_cons]
    omega
  · simp only [custody, List.map_append, List.reverse_cons]
    exact congrArg (· ++ [list.buffer]) h.inFlight
  · refine Eq.trans ?_ (h.sets layout slot)
    simp only [custody, poolOf, List.flatMap_cons, List.count_append]
    omega

/-- A synchronisation frees what was pending. -/
theorem reclaimed_conserves {g : Gpu} {lists : List CommandList}
    (h : g.custody.Conserved lists) : g.reclaimed.custody.Conserved lists := by
  refine recycleSets_conserves ⟨fun b => ?_, rfl, fun layout slot => ?_, h.bounded⟩
  · refine Eq.trans ?_ (h.buffers b)
    simp only [custody, SubmissionTracker.reclaimed, List.count_append, List.count_nil]
    omega
  · refine Eq.trans ?_ (h.sets layout slot)
    simp only [custody, poolOf, SubmissionTracker.reclaimed, List.append_nil, List.count_append]

theorem lt_succ_slot {made : Nat} (small : made < UInt32.size) (slot : UInt32) :
    (if slot.toNat < made + 1 then 1 else 0) =
      (if slot.toNat < made then 1 else 0) + if UInt32.ofNat made == slot then 1 else 0 := by
  have number : (UInt32.ofNat made).toNat = made := UInt32.toNat_ofNat_of_lt' small
  simp only [beq_iff_eq, ← UInt32.toNat_inj, number]
  exact lt_succ_count _ _

/-- Taking a set takes it off the free ones, or makes one more. -/
theorem count_allocate {p p' : DescriptorPool UInt32} {set : UInt32}
    (capacity : p.capacity = defaultPoolCapacity)
    (taken : p.allocate UInt32.ofNat = .ok (set, p')) (slot : UInt32) :
    p'.free.count slot + (if set == slot then 1 else 0) +
        (if slot.toNat < p.allocated then 1 else 0) =
      p.free.count slot + if slot.toNat < p'.allocated then 1 else 0 := by
  have allocates := p.allocates UInt32.ofNat
  rw [taken] at allocates
  cases allocates with
  | reused free => rw [free, List.count_cons]
  | created none room =>
    have small : p.allocated < 2 ^ 32 := by
      rw [capacity] at room
      exact Nat.lt_trans room (by decide)
    dsimp only
    rw [lt_succ_slot small]
    omega

theorem allocate_bounded {p p' : DescriptorPool UInt32} {set : UInt32}
    (bounded : p.capacity = defaultPoolCapacity ∧ p.allocated ≤ defaultPoolCapacity)
    (taken : p.allocate UInt32.ofNat = .ok (set, p')) :
    p'.capacity = defaultPoolCapacity ∧ p'.allocated ≤ defaultPoolCapacity := by
  have allocates := p.allocates UInt32.ofNat
  rw [taken] at allocates
  cases allocates with
  | reused => exact bounded
  | created none room =>
    rw [bounded.1] at room
    exact ⟨bounded.1, room⟩

/-- A set that was taken from its pool goes to a list. -/
theorem Custody.Conserved.takeSet {k : Custody} {layout : CacheHandle} {set : UInt32}
    {pool : DescriptorPool UInt32} {list list' : CommandList} {others : List CommandList}
    (h : k.Conserved (list :: others))
    (taken : (k.pools layout).allocate UInt32.ofNat = .ok (set, pool))
    (buffer : list'.buffer = list.buffer) (sets : list'.sets = list.sets ++ [⟨layout, set⟩]) :
    { k with pools := fun other => if other = layout then pool else k.pools other }.Conserved
      (list' :: others) where
  buffers b := by
    rw [← h.buffers b, List.map_cons, List.map_cons, buffer]
  inFlight := h.inFlight
  sets other slot := by
    have counted := h.sets other slot
    simp only [List.flatMap_cons, List.count_append, sets] at counted ⊢
    -- The set moves from its pool to the list, and counts for no other pool.
    by_cases same : other = layout
    · subst same
      have moved := count_allocate (h.bounded other).1 taken slot
      have one : [(⟨other, set⟩ : SetHandle)].count ⟨other, slot⟩ =
          if set == slot then 1 else 0 := by
        simp [List.count_cons]
      simp only [if_true, one]
      omega
    · have none : [(⟨layout, set⟩ : SetHandle)].count ⟨other, slot⟩ = 0 := by
        simp [Ne.symm same]
      simp only [same, if_false, none]
      omega
  bounded other := by
    by_cases same : other = layout
    · subst same
      simp only [if_true]
      exact allocate_bounded (h.bounded other) taken
    · simp only [same, if_false]
      exact h.bounded other

/-- A set is taken from its pool's free ones, or made, and goes to a list. -/
theorem allocSet_conserves {s : Live Gpu} (layout : CacheHandle) :
    (allocSet layout).wp
      (fun set t => t.platform = s.platform ∧ t.device.connection = s.device.connection ∧
        t.device.tracker = s.device.tracker ∧
        ∀ (list list' : CommandList) others, list'.buffer = list.buffer →
          list'.sets = list.sets ++ [set] → s.device.custody.Conserved (list :: others) →
            t.device.custody.Conserved (list' :: others))
      (fun _ t => t = s) s := by
  simp only [allocSet, layoutEntry, wp_bind, Live.wp_self, wp_orRefuse, wp_checked, Live.wp_update,
    wp_pure]
  refine ⟨fun entry found => ⟨?_, fun _ _ => trivial⟩, fun _ => trivial⟩
  rintro ⟨set, pool⟩ taken
  have known : s.device.layouts.get? layout ≠ none := by
    rw [found]
    exact Option.some_ne_none entry
  have before : s.device.poolOf layout = entry.pool := by
    rw [poolOf, found]
    rfl
  rw [← before] at taken
  refine ⟨trivial, trivial, trivial, fun list list' others buffer sets h => ?_⟩
  have pools := funext fun other => poolOf_modify s.device layout other (fun _ => pool) known
  rw [custody, pools]
  exact h.takeSet taken buffer sets

end Gpu

end DeviceLayer
