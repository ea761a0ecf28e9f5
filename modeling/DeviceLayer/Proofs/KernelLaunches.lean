import DeviceLayer.Proofs.KernelLists

/-!
# What a launch comes to

A launch makes a list, records a kernel into it and queues it. The list is dropped at the end,
whether or not it was queued, and its drop is what puts command buffers and descriptor sets back.

* `Gpu.SubmitsOnce` — one list was queued and is in flight.
* `Gpu.GivesBack` — nothing was queued, and what was taken is free again.
* `Gpu.launchKernel`, `Gpu.wp_launchKernel` — a launch of a kernel that is at hand.
* `Kernel.RunsWith` — what the dispatch of a launch runs with.
* `Client.launch_runs` — every launch of a registered kernel.
-/

namespace DeviceLayer

open DeviceLayer.Action

theorem Platform.asked_submit (label : EncoderLabel) (commands : List Command) (p : Platform) :
    (p.submit label commands).2.asked = p.asked ++ [.submit label commands] :=
  List.filter_append ..

namespace Gpu

variable {s t u : Live Gpu} {lists : List CommandList}

/-! ## What is queued, and what is given back -/

/-- These commands were queued, and nothing else was asked of the queue; their command buffer is in
flight, behind all that were. -/
structure SubmitsOnce (s t : Live Gpu) (buffer : CommandBufferId) (commands : List Command) :
    Prop where
  submissions : t.platform.submissions = s.platform.submissions + 1
  asked : t.platform.asked = s.platform.asked ++ [.submit .commandList commands]
  inFlight : t.device.tracker.inFlight =
    s.device.tracker.inFlight ++ [(buffer, s.platform.submissions)]

/-- Nothing was asked of the queue and nothing is in flight or pending that was not. Of command
buffers and descriptor sets just those are free that were, and those that were made since. -/
structure GivesBack (s t : Live Gpu) : Prop where
  submissions : t.platform.submissions = s.platform.submissions
  asked : t.platform.asked = s.platform.asked
  inFlight : t.device.tracker.inFlight = s.device.tracker.inFlight
  pendingBuffers : t.device.tracker.pendingBuffers = s.device.tracker.pendingBuffers
  pendingSets : t.device.tracker.pendingSets = s.device.tracker.pendingSets
  buffers : ∀ b : CommandBufferId, t.device.tracker.free.count b =
    s.device.tracker.free.count b +
      if s.device.nextCommandBuffer ≤ b.index ∧ b.index < t.device.nextCommandBuffer then 1 else 0
  sets : ∀ layout (slot : UInt32), (t.device.poolOf layout).free.count slot =
    (s.device.poolOf layout).free.count slot +
      if (s.device.poolOf layout).allocated ≤ slot.toNat ∧
        slot.toNat < (t.device.poolOf layout).allocated then 1 else 0

/-- Nothing was asked of the queue. -/
def Silent (s t : Live Gpu) : Prop := t.platform.asked = s.platform.asked

instance : Evolution Silent := ⟨fun _ => rfl, fun first second => second.trans first⟩

instance : Growing Silent where
  grows grown := grown.asked

instance : ListFrame Silent where
  toFrame := .of fun _ => rfl
  custody _ _ := rfl
  pool _ _ := rfl
  polled {s} fence := by
    show List.filter Event.queues (s.platform.log ++ [_]) = _
    simp [List.filter_append, Event.queues, Platform.asked]

/-- No command buffer and no descriptor set that was made is forgotten. -/
structure Counts (s t : Live Gpu) : Prop where
  buffers : s.device.nextCommandBuffer ≤ t.device.nextCommandBuffer
  sets : ∀ layout, (s.device.poolOf layout).allocated ≤ (t.device.poolOf layout).allocated

theorem Counts.of_custody (same : t.device.custody = s.device.custody) : Counts s t where
  buffers := UInt32.le_of_eq (congrArg Custody.nextCommandBuffer same).symm
  sets layout :=
    Nat.le_of_eq (congrArg (fun k => (k.pools layout).allocated) same).symm

instance : Evolution Counts where
  refl _ := .of_custody rfl
  trans first second :=
    ⟨UInt32.le_trans first.buffers second.buffers,
      fun layout => Nat.le_trans (first.sets layout) (second.sets layout)⟩

instance : Growing Counts where
  grows _ := .of_custody rfl

instance : Frame Counts := .of fun h => .of_custody h.custody

theorem counts_allocSet (layout : CacheHandle) : (allocSet layout).Evolves Counts := by
  intro s
  simp only [allocSet, layoutEntry, wp_bind, Live.wp_self, wp_orRefuse, wp_checked, Live.wp_update,
    wp_pure]
  refine ⟨fun entry found => ⟨?_, fun _ _ => Evolution.refl s⟩, fun _ => Evolution.refl s⟩
  rintro ⟨set, pool⟩ taken
  have more : entry.pool.allocated ≤ pool.allocated := by
    have allocates := entry.pool.allocates UInt32.ofNat
    rw [taken] at allocates
    cases allocates with
    | reused => exact Nat.le_refl _
    | created => exact Nat.le_succ _
  have known : s.device.layouts.get? layout ≠ none := found ▸ Option.some_ne_none entry
  have before : s.device.poolOf layout = entry.pool := by
    rw [poolOf, found]
    rfl
  refine ⟨UInt32.le_refl _, fun other => ?_⟩
  rw [poolOf_modify s.device layout other (fun _ => pool) known]
  split
  · rename_i same
    rw [same, before]
    exact more
  · exact Nat.le_refl _

instance : Recording.Frame (Recording.OfLive Counts) where
  device := Frame.mono (S := Counts) inferInstance fun _ _ step _ => step
  list _ _ := Evolution.refl (R := Counts) _
  takeSet layout r := counts_allocSet layout r.live

/-- Dropping a list forgets nothing either. -/
theorem counts_afterDrop {r : Recording} (h : r.live.device.custody.Conserved (r.list :: lists)) :
    Counts r.live (afterDrop r) := by
  -- Neither releasing the buffer nor recycling the sets changes how many there are.
  have idle : r.live.device.tracker.isInFlight r.list.buffer = false := h.idle
  have made (set : SetHandle) (member : set ∈ r.list.sets) :
      0 < (r.live.device.poolOf set.layout).allocated :=
    h.known (List.mem_append_right _ (List.mem_flatMap.2 ⟨r.list, List.mem_cons_self .., member⟩))
  have dropped : ∃ tracker,
      (afterDrop r).device = recycleSets r.list.sets { r.live.device with tracker } :=
    ⟨_, by rw [afterDrop, releaseList, SubmissionTracker.release, if_neg (by simp [idle])]⟩
  obtain ⟨tracker, dropped⟩ := dropped
  have refilled (layout : CacheHandle) :=
    refilled_recycleSets (g := { r.live.device with tracker }) made layout
  refine ⟨?_, fun layout => ?_⟩
  · rw [dropped, recycleSets_nextCommandBuffer]
    exact UInt32.le_refl _
  · rw [dropped, (refilled layout).allocated]
    exact Nat.le_refl _

/-- What is kept the same in number is free again, and what was made in between is free. -/
theorem free_of_counts {free free' kept n made made' : Nat}
    (before : free + kept = if n < made then 1 else 0)
    (after : free' + kept = if n < made' then 1 else 0) (more : made ≤ made') :
    free' = free + if made ≤ n ∧ n < made' then 1 else 0 := by
  split at before <;> split at after <;> split <;> omega

/-- Where all is accounted for before and after, and nothing more is pending, what is free is told
by what was made. -/
theorem GivesBack.of_conserved (h : s.device.custody.Conserved lists)
    (h' : t.device.custody.Conserved lists) (counts : Counts s t)
    (submissions : t.platform.submissions = s.platform.submissions) (silent : Silent s t)
    (inFlight : t.device.tracker.inFlight = s.device.tracker.inFlight)
    (pendingBuffers : t.device.tracker.pendingBuffers = s.device.tracker.pendingBuffers)
    (pendingSets : t.device.tracker.pendingSets = s.device.tracker.pendingSets) :
    GivesBack s t where
  submissions := submissions
  asked := silent
  inFlight := inFlight
  pendingBuffers := pendingBuffers
  pendingSets := pendingSets
  buffers b := by
    have before := h.buffers b
    have after := h'.buffers b
    rw [List.append_assoc, List.count_append] at before after
    simp only [custody, pendingBuffers, UInt32.lt_iff_toNat_lt] at before after
    simp only [UInt32.lt_iff_toNat_lt, UInt32.le_iff_toNat_le]
    exact free_of_counts before after (UInt32.le_iff_toNat_le.1 counts.buffers)
  sets layout slot := by
    have after := h'.sets layout slot
    simp only [custody, pendingSets] at after
    exact free_of_counts (h.sets layout slot) after (counts.sets layout)

/-! ## One launch -/

/-- A launch of a kernel that is at hand. -/
def launchKernel (k : Kernel) (mapping : Mapping) : Action (Live Gpu) Unit := do
  let binder ← Action.check (k.bind mapping)
  usingList (← newList) (k.queue binder)

/-- To launch a kernel by its number is to launch what is registered under it. -/
theorem wp_launchLocal {Q : Unit → Live Gpu → Prop} {E : Fault → Live Gpu → Prop} {number : UInt32}
    {k : Kernel} (registered : s.device.kernels.get? number = some k) (stream : UInt32)
    (mapping : Mapping) (launched : (launchKernel k mapping).wp Q E s)
    (refused : ∀ e, E (.device (.precondition e)) s) :
    (launchLocal stream number mapping).wp Q E s := by
  simp only [launchKernel, wp_bind, wp_check] at launched
  simp only [launchLocal, prepareLaunch, checkStream, wp_bind, wp_require, Live.wp_self, registered,
    wp_orRefuse_some, wp_check, wp_pure]
  exact ⟨fun _ => launched, fun _ => refused _⟩

/-- A list was made: its buffer was free, or is new. -/
structure MakesList (s : Live Gpu) (list : CommandList) (t : Live Gpu) : Prop where
  empty : ∃ buffer, list = { buffer }
  supplies : Supplies s t
  counts : Counts s t
  platform : t.platform = s.platform
  inFlight : t.device.tracker.inFlight = s.device.tracker.inFlight
  pendingBuffers : t.device.tracker.pendingBuffers = s.device.tracker.pendingBuffers
  pendingSets : t.device.tracker.pendingSets = s.device.tracker.pendingSets

theorem wp_newList_makes (s : Live Gpu) : newList.wp (MakesList s) (fun _ t => t = s) s := by
  have supplies : newList.Evolves Supplies :=
    evolves_supplies framed_newList (framed_newList.mono fun _ _ => Still.keepsTables)
      framed_newList framed_newList
  have rest : newList.wp (fun list t => Supplies s t → MakesList s list t) (fun _ t => t = s)
      s := by
    rw [wp_newList]
    cases s.device.tracker.free with
    | cons buffer rest =>
      exact fun supplies => ⟨⟨buffer, rfl⟩, supplies, ⟨UInt32.le_refl _, fun _ => Nat.le_refl _⟩,
        rfl, rfl, rfl, rfl⟩
    | nil =>
      simp only
      split
      · trivial
      · rename_i room
        have later : s.device.nextCommandBuffer < s.device.nextCommandBuffer + 1 :=
          (takeNumber_eq_ok (if_neg room)).2
        exact fun supplies => ⟨⟨_, rfl⟩, supplies,
          ⟨UInt32.le_of_lt later, fun _ => Nat.le_refl _⟩, rfl, rfl, rfl, rfl⟩
  exact ((supplies s).and rest).mono (fun _ _ made => made.2 made.1) fun _ _ failed => failed.2

/-- A list that is dropped before it is queued gives everything back. -/
theorem MakesList.givesBack {list : CommandList} {r : Recording} (made : MakesList s list u)
    (h : s.device.custody.Conserved lists) (held : u.device.custody.Conserved (list :: lists))
    (fair : Recording.Fair ⟨u, list⟩ r) (silent : Silent u r.live) (counts : Counts u r.live) :
    GivesBack s (afterDrop r) := by
  have recorded := fair.conserves held
  have idle : r.live.device.tracker.isInFlight r.list.buffer = false := recorded.idle
  have tracker := tracker_releaseList_idle idle
  rw [fair.tracker] at tracker
  have all : Counts s (afterDrop r) :=
    Evolution.trans (Evolution.trans made.counts counts) (counts_afterDrop recorded)
  refine .of_conserved h (release_conserves recorded) all ?_ ?_ ?_ ?_ ?_
  · exact fair.platform.submissions.trans (congrArg _ made.platform)
  · exact silent.trans (congrArg _ made.platform)
  · exact (congrArg _ tracker).trans made.inFlight
  · exact (congrArg _ tracker).trans made.pendingBuffers
  · exact (congrArg _ tracker).trans made.pendingSets

end Gpu

/-- The kernel was launched: its binder is that of the launch, these groups were recorded, and the
list was queued. -/
structure Kernel.Launched (k : Kernel) (mapping : Mapping) (binder : Binder)
    (groups : List BindGroup) (s v t : Live Gpu) : Prop where
  bound : k.bind mapping = .ok binder
  supplies : Gpu.Supplies s v
  made : List.Forall₂ (fun e => Gpu.GroupOf s v binder (UInt32.ofNat e.2) e.1)
    k.pipeline.sets.zipIdx groups
  pads : Gpu.Pads v t
  submits : ∃ native buffer, k.pipeline.kind = .compute native ∧
    Gpu.SubmitsOnce s t buffer (encode (Recorded.ofKernel native groups k.groups))

namespace Gpu

variable {s t u : Live Gpu} {lists : List CommandList}

/-- A list that was recorded for a launch and queued. -/
theorem MakesList.launched {list : CommandList} {r : Recording} {k : Kernel} {mapping : Mapping}
    {binder : Binder} {native : NativePipeline} {groups : List BindGroup}
    (made : MakesList s list u) (bound : k.bind mapping = .ok binder)
    (records : k.Records binder native groups ⟨u, list⟩ r) (fair : Recording.Fair ⟨u, list⟩ r)
    (silent : Silent u r.live) {t : Recording} (ended : SubmitEnd r false (.ok ()) t)
    (pads : Pads r.live t.live) :
    k.Launched mapping binder groups s r.live (afterDrop t) where
  bound := bound
  supplies := Evolution.trans made.supplies records.supplies
  made := records.groups.imp fun _ _ group => group.from made.supplies
  pads := Evolution.trans pads (framed_afterDrop t)
  submits := by
    cases ended with
    | marked idle =>
      have fence : r.live.platform.submissions = s.platform.submissions :=
        fair.platform.submissions.trans (congrArg _ made.platform)
      have asked : r.live.platform.asked = s.platform.asked :=
        silent.trans (congrArg _ made.platform)
      have inFlight : r.live.device.tracker.inFlight = s.device.tracker.inFlight :=
        (congrArg _ fair.tracker).trans made.inFlight
      refine ⟨native, r.list.buffer, records.kind, congrArg (· + 1) fence, ?_, ?_⟩
      · rw [← records.closed, ← asked]
        exact Platform.asked_submit _ _ _
      · rw [← fence, ← inFlight]
        exact releaseList_inFlight _ _

/-- A launch ends with its list queued, or it fails and gives everything back. -/
theorem wp_launchKernel (h : s.device.custody.Conserved lists) (k : Kernel) (mapping : Mapping) :
    (launchKernel k mapping).wp
      (fun _ t => ∃ binder groups v, k.Launched mapping binder groups s v t)
      (fun _ t => GivesBack s t) s := by
  have nothing : GivesBack s s :=
    .of_conserved h h (Evolution.refl s) rfl rfl rfl rfl rfl
  simp only [launchKernel, wp_bind, wp_check]
  refine ⟨fun binder bound => ?_, fun _ _ => nothing⟩
  refine ((wp_newList_makes s).and (newList_conserves h)).mono ?_ ?_
  · rintro list u ⟨made, held⟩
    obtain ⟨buffer, rfl⟩ := made.empty
    rw [wp_usingList, Kernel.queue_eq, wp_bind]
    -- What recording comes to, what of it is the list's alone, and that it asks nothing of the
    -- queue and forgets no buffer or set, for a failure as well.
    refine ((Kernel.wp_record k binder rfl rfl).and
      ((k.framed_record (F := Recording.Fair) binder _).and
        ((k.framed_record (F := Recording.OfLive Silent) binder _).and
          (k.framed_record (F := Recording.OfLive Counts) binder _)))).mono ?_ ?_
    · rintro _ r ⟨⟨native, groups, records⟩, fair, silent, counts⟩
      refine ((Recording.submit_ends r false).and
        (Recording.framed_submit (S := Pads) false r)).mono ?_ ?_
      · rintro _ t ⟨ended, pads⟩
        exact ⟨binder, groups, r.live, made.launched bound records fair silent ended pads⟩
      · rintro e t ⟨ended, -⟩
        cases ended with
        | refused => exact made.givesBack h held fair silent counts
        | twice busy => exact absurd busy (Bool.eq_false_iff.1 (fair.conserves held).idle)
    · rintro e r ⟨-, fair, silent, counts⟩
      exact made.givesBack h held fair silent counts
  · rintro e t ⟨rfl, -⟩
    exact nothing

end Gpu

/-! ## What it runs with -/

/-- The window that a launch has for a place: of the range that is mapped for the last argument that
names it, or else of the placeholder that the device had at the time. -/
structure Kernel.Feeds (k : Kernel) (stages : List Reflection) (mapping : Mapping) (set : UInt32)
    (e : BindEntry) (s t : Live Gpu) : Prop where
  range : ∀ range, k.range? mapping set e.binding = some range →
    (Reflection.slot? stages set e.binding).map (·.kind) = some .readWriteBuffer ∧
      ∃ a, s.device.Windows a .readWriteBuffer range.slot e
  placeholder : k.range? mapping set e.binding = none → ∃ slot v, Gpu.Pads s v ∧ Gpu.Pads v t ∧
    Reflection.slot? stages set e.binding = some slot ∧ Gpu.Placeholds slot.size.toNat e v

/-- What the dispatch of a kernel runs with: the kernel's pipeline, and one window for each place
that its stages reflect. All arguments are mapped. -/
structure Kernel.RunsWith (k : Kernel) (stages : List Reflection) (mapping : Mapping)
    (b : Bindings) (s t : Live Gpu) : Prop where
  pipeline : ∃ native, k.pipeline.kind = .compute native ∧ b.pipeline = some native
  mapped : ∀ a ∈ k.arguments, ∃ range, mapping.get? a.node = some range
  places : ∀ set n, (Reflection.slot? stages set n).isSome = true ↔
    ∃ group, b.groups set = some group ∧ n ∈ group.windows.entries.map (·.binding)
  ascending : ∀ set group, b.groups set = some group →
    group.windows.entries.Pairwise (·.binding < ·.binding)
  windows : ∀ set group, b.groups set = some group →
    ∀ e ∈ group.windows.entries, k.Feeds stages mapping set e s t

namespace Kernel.Launched

variable {k : Kernel} {mapping : Mapping} {binder : Binder} {groups : List BindGroup}
  {s v t : Live Gpu} {stages : List Reflection} {c₀ : Gpu}

/-- The group of an index is that of the layout which the stages ask for there. -/
theorem group (h : k.Launched mapping binder groups s v t) (laid : k.pipeline.Laid stages c₀)
    {i : Nat} {group : BindGroup} (there : groups[i]? = some group) :
    ∃ set, set.2 = ((lockedBinder stages).setLayout? (UInt32.ofNat i)).getD ∅ ∧
      Gpu.GroupOf s v binder (UInt32.ofNat i) set group := by
  obtain ⟨set, known, groupOf⟩ := Gpu.GroupOf.of_forall₂ h.made there
  exact ⟨set, laid.binder ▸ laid.sets.slots known, groupOf⟩

/-- There is a group for each index up to the highest set that is reflected. -/
theorem lt_length (h : k.Launched mapping binder groups s v t) (laid : k.pipeline.Laid stages c₀)
    (i : Nat) : i < groups.length ↔ ∃ b ∈ Reflection.buffers stages, i ≤ b.1.set.toNat := by
  rw [← h.made.length_eq, List.length_zipIdx, Gpu.lt_groupCount laid.sets.count, laid.binder]
  simp only [isSome_sets_lockedBinder]
  constructor
  · rintro ⟨set, ⟨b, member, rfl⟩, below⟩
    exact ⟨b, member, below⟩
  · exact fun ⟨b, member, below⟩ => ⟨_, ⟨b, member, rfl⟩, below⟩

theorem few (h : k.Launched mapping binder groups s v t) (laid : k.pipeline.Laid stages c₀) :
    groups.length ≤ UInt32.size := by
  by_contra more
  obtain ⟨b, -, below⟩ := (h.lt_length laid UInt32.size).1 (Nat.lt_of_not_le more)
  exact absurd (Nat.lt_of_le_of_lt below b.1.set.toNat_lt) (Nat.lt_irrefl _)

/-- An entry shows what the launch has for its place. -/
theorem feeds (h : k.Launched mapping binder groups s v t) (laid : k.pipeline.Laid stages c₀)
    (nonNull : ∀ node range, mapping.get? node = some range → range.start.isNull = false)
    {i : UInt32} {set : CacheHandle × SetLayout} {group : BindGroup} {e : BindEntry}
    (slots : set.2 = ((lockedBinder stages).setLayout? i).getD ∅)
    (groupOf : Gpu.GroupOf s v binder i set group) (member : e ∈ group.windows.entries) :
    k.Feeds stages mapping i e s t := by
  obtain ⟨take, -, held⟩ := Kernel.bind_eq_ok laid.binder h.bound
  obtain ⟨⟨n, kind⟩, inSet, written⟩ := groupOf.entry member
  obtain ⟨rfl, u, w, before, -, step, after, shows⟩ := written.shows
  -- The kind of the slot in the layout is that of the slot which was reflected.
  have reflected : (Reflection.slot? stages i e.binding).map (·.kind) = some kind := by
    rw [← lockedBinder_slot?, ← Binder.get?_setLayout, ← slots]
    exact SortedMap.get?_eq_some_iff.2 inSet
  obtain ⟨slot, known, rfl⟩ := Option.map_eq_some_iff.1 reflected
  have held := held i e.binding
  rw [known, Option.map_some] at held
  constructor
  · intro range fed
    rw [fed] at held
    obtain ⟨a, last, mapped⟩ := Option.bind_eq_some_iff.1 fed
    obtain ⟨named, names⟩ := List.mem_filter.1 (List.mem_of_getLast? last)
    obtain ⟨rfl, there⟩ := of_decide_eq_true names
    have writable : slot.kind = .readWriteBuffer := by
      refine (take a named).writable slot ?_
      rw [lockedBinder_slot?, there, known]
    refine ⟨by rw [known, ← writable, Option.map_some], ?_⟩
    rw [← writable]
    exact shows.memory held (nonNull _ _ mapped)
  · intro unfed
    rw [unfed] at held
    -- What is reflected holds no memory until something is bound.
    have empty : slot.pointer.isNull = true := by
      obtain ⟨b, -, rfl⟩ := Option.map_eq_some_iff.1 known
      rfl
    refine ⟨slot, w, Evolution.trans before step, Evolution.trans after h.pads, known, ?_⟩
    have placeholds := shows.placeholder fun b same => by
      rw [held] at same
      exact Option.some.inj same ▸ empty
    rwa [held] at placeholds

/-- The commands of the launch dispatch once, and with what they should. -/
theorem runs (h : k.Launched mapping binder groups s v t) (laid : k.pipeline.Laid stages c₀)
    (nonNull : ∀ node range, mapping.get? node = some range → range.start.isNull = false) :
    ∃ buffer commands bindings, Gpu.SubmitsOnce s t buffer commands ∧
      Bindings.dispatches {} commands =
        [⟨k.groups.1, k.groups.2.1, k.groups.2.2, bindings⟩] ∧
      k.RunsWith stages mapping bindings s t := by
  obtain ⟨native, buffer, kind, submits⟩ := h.submits
  refine ⟨buffer, _, _, submits, Recorded.dispatches_ofKernel native (h.few laid) k.groups, ?_⟩
  -- The group at an index is that of the set with the same number.
  have groupOf {set : UInt32} {group : BindGroup} (there : groups[set.toNat]? = some group) :
      ∃ layout, layout.2 = ((lockedBinder stages).setLayout? set).getD ∅ ∧
        Gpu.GroupOf s v binder set layout group := by
    simpa using h.group laid there
  obtain ⟨take, -⟩ := Kernel.bind_eq_ok laid.binder h.bound
  refine ⟨⟨native, kind, rfl⟩, fun a member => (take a member).mapped,
    fun set n => ⟨fun reflected => ?_, ?_⟩, ?_, ?_⟩
  · obtain ⟨b, member, rfl, -⟩ := (Reflection.isSome_slot? stages set n).1 reflected
    have within := (h.lt_length laid b.1.set.toNat).2 ⟨b, member, Nat.le_refl _⟩
    have there := List.getElem?_eq_getElem within
    obtain ⟨layout, slots, made⟩ := groupOf there
    exact ⟨_, there, (made.places slots n).2 reflected⟩
  · rintro ⟨group, there, member⟩
    obtain ⟨layout, slots, made⟩ := groupOf there
    exact (made.places slots n).1 member
  · intro set group there
    obtain ⟨layout, -, made⟩ := groupOf there
    exact made.ascending
  · intro set group there e member
    obtain ⟨layout, slots, made⟩ := groupOf there
    exact h.feeds laid nonNull slots made member

/-- Nothing else would have come of the launch without the arguments that name no reflected slot. -/
theorem outcome_trimmed (h : k.Launched mapping binder groups s v t)
    (laid : k.pipeline.Laid stages c₀) :
    (Gpu.launchKernel (k.trimmed stages) mapping).outcome s =
      (Gpu.launchKernel k mapping).outcome s := by
  rw [Gpu.launchKernel, Gpu.launchKernel, h.bound, Kernel.bind_trimmed laid.binder h.bound]
  rfl

end Kernel.Launched

namespace Client

/-- A client launches a kernel that is registered with its device, whose pipeline was made from
sources by this or another device, with ranges that are not null. If this succeeds, exactly one list
was queued and is in flight. It has exactly one dispatch, of the kernel's workgroups and with its
pipeline, and one window for each place that the sources reflect: of the range that is mapped for
the last argument that names it, where the place is written as well as read, or else of the
placeholder. Arguments that name no reflected place could be left out. If the launch fails, nothing
was queued, and all command buffers and descriptor sets that it took are free again. -/
theorem launch_runs {c : Client} (reachable : c.Reachable) {number : UInt32} {kernel : Kernel}
    (registered : c.live.device.kernels.get? number = some kernel) {c₀ c₁ : Client}
    {sources : List ShaderSource} (made : c₀.Makes sources kernel.pipeline c₁) {mapping : Mapping}
    (nonNull : ∀ node range, mapping.get? node = some range → range.start.isNull = false)
    (stream : UInt32) :
    (∀ t, (Gpu.launchLocal stream number mapping).outcome c.live = (.ok (), t) →
      ∃ stages buffer commands bindings,
        sources.mapM ShaderSource.reflectStage = .ok stages ∧
        Gpu.SubmitsOnce c.live t buffer commands ∧
        Bindings.dispatches {} commands =
          [⟨kernel.groups.1, kernel.groups.2.1, kernel.groups.2.2, bindings⟩] ∧
        kernel.RunsWith stages mapping bindings c.live t ∧
        (Gpu.launchKernel (kernel.trimmed stages) mapping).outcome c.live = (.ok (), t)) ∧
    ∀ e t, (Gpu.launchLocal stream number mapping).outcome c.live = (.error e, t) →
      Gpu.GivesBack c.live t := by
  obtain ⟨stages, reflected, laid⟩ := made.laid []
  have conserved := reachable.accounted.conserved
  have launches := (Gpu.wp_launchKernel conserved kernel mapping).and (wp_outcome _ c.live)
  have ends := Gpu.wp_launchLocal registered stream mapping
    (launches.mono (fun _ _ ended => ended) fun _ _ failed => failed.1) fun _ =>
      .of_conserved conserved conserved (Evolution.refl _) rfl rfl rfl rfl rfl
  refine ⟨fun t ended => ?_, fun e t => ends.failed⟩
  obtain ⟨⟨binder, groups, v, launched⟩, ran⟩ := ends.ended ended
  obtain ⟨buffer, commands, bindings, submits, dispatches, runs⟩ := launched.runs laid nonNull
  exact ⟨stages, buffer, commands, bindings, reflected, submits, dispatches, runs,
    (launched.outcome_trimmed laid).trans ran⟩

/-- The first of its two arguments for one place gives way to the second, and the third one names no
place. -/
def gappedKernel : Kernel where
  pipeline := gappedPipeline
  arguments := [⟨4, 0, 0⟩, ⟨5, 0, 0⟩, ⟨5, 1, 0⟩]
  groups := (2, 3, 1)

/-- One launch of the kernel shows the second half of an allocation; another one finds its range
misaligned when it has taken a set already. -/
theorem launch_runs_gapped :
    let c₀ := (opened ⟨1⟩).run [.device (.memory (.allocate (.deviceLocal 512)))]
    let c₁ := (c₀.onDevice (Gpu.createComputePipeline gapped "k")).2
    let c := c₁.run [.device (.registerKernel 7 gappedKernel)]
    let mapping (offset : UInt64) : Mapping :=
      .ofList [(4, ⟨⟨⟨1⟩, 0, 0⟩, 64⟩), (5, ⟨⟨⟨1⟩, 0, offset⟩, 16⟩)]
    let launched := (Gpu.launchLocal 0 7 (mapping 256)).outcome c.live
    let failed := (Gpu.launchLocal 0 7 (mapping 4)).outcome c.live
    launched.1 = .ok () ∧ failed.1.isOk = false ∧ Gpu.GivesBack c.live failed.2 ∧
      ∃ buffer commands bindings group, Gpu.SubmitsOnce c.live launched.2 buffer commands ∧
        Bindings.dispatches {} commands = [⟨2, 3, 1, bindings⟩] ∧
        bindings.groups 0 = some group ∧
        ∃ e ∈ group.windows.entries, e.binding = 0 ∧ e.offset = 256 := by
  intro c₀ c₁ c mapping launched failed
  have made : c₀.Makes [gapped] gappedKernel.pipeline c₁ := by
    refine @Makes.compute _ gapped "k" _ _ (Prod.ext ?_ rfl)
    simp only [c₀, onDevice, Gpu.createComputePipeline, reflectStage_gapped]
    rfl
  have reachable : c.Reachable :=
    (made.reachable ⟨_, fresh_opened ⟨1⟩, _, rfl⟩).after _
  have registered : c.live.device.kernels.get? 7 = some gappedKernel := by
    simp only [c, c₁, c₀, onDevice, Gpu.createComputePipeline, reflectStage_gapped]
    rfl
  have nonNull (offset : UInt64) (node : Int) (range : Range)
      (mapped : (mapping offset).get? node = some range) : range.start.isNull = false := by
    rcases SortedMap.get?_of_insert mapped with ⟨-, rfl⟩ | mapped
    · rfl
    · rcases SortedMap.get?_of_insert mapped with ⟨-, rfl⟩ | mapped
      · rfl
      · cases mapped
  have succeeds : launched.1 = .ok () := by
    simp only [launched, mapping, c, c₁, c₀, onDevice, Gpu.createComputePipeline,
      reflectStage_gapped]
    decide +kernel
  have fails : failed.1 = .error (.device (.precondition (.bindingMisaligned 0 0 4 256))) := by
    simp only [failed, mapping, c, c₁, c₀, onDevice, Gpu.createComputePipeline,
      reflectStage_gapped]
    decide +kernel
  have ended := (launch_runs reachable registered made (nonNull 256) 0).1 _ (Prod.ext succeeds rfl)
  have gave := (launch_runs reachable registered made (nonNull 4) 0).2 _ _ (Prod.ext fails rfl)
  obtain ⟨stages, buffer, commands, bindings, reflected, submits, dispatches, runs, -⟩ := ended
  obtain rfl : stages = [gappedSlots] := by
    simpa [reflectStage_gapped, eq_comm] using reflected
  obtain ⟨group, there, inGroup⟩ := (runs.places 0 0).1 (by decide +kernel)
  obtain ⟨e, member, named⟩ := List.mem_map.1 inGroup
  refine ⟨succeeds, by rw [fails]; rfl, gave, buffer, commands, bindings, group, submits,
    dispatches, there, e, member, named, ?_⟩
  have fed : gappedKernel.range? (mapping 256) 0 e.binding = some ⟨⟨⟨1⟩, 0, 256⟩, 16⟩ := by
    rw [named]
    decide +kernel
  obtain ⟨-, a, windows⟩ := (runs.windows 0 group there e member).range _ fed
  exact windows.offset

end Client

end DeviceLayer
