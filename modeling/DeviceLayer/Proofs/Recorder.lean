import DeviceLayer.Proofs.Replay
import DeviceLayer.Proofs.Submissions
import DeviceLayer.Proofs.Clients

/-!
# Recorded lists are in order

The recording calls refuse what the replay would skip: a list records commands of a render pass
only while it is in one, and a raster pipeline stays bound no longer than that.

* `CommandList.At` — the list is in a render pass, or outside of one, and recorded in order so far.
* `CommandList.InOrder` — the invariant of a list that is recording.
* `RecordingCall.keepsOrder` — every recording call keeps it, also when it fails on the way.
* `Client.finalize_replays` — what finalizing a list of a client gives.
-/

namespace DeviceLayer

open DeviceLayer.Action

/-- The list is in a render pass or not, its commands were allowed where they were recorded, and a
raster pipeline is bound inside a pass only. -/
structure CommandList.At (inside : Bool) (l : CommandList) : Prop where
  target : l.target.isSome = inside
  commands : l.commands.toList.foldlM Recorded.next? false = some inside
  bound : ∀ b, l.bound = some b → b.graphics = true → inside = true

/-- A list that is recording is in order. -/
def CommandList.InOrder (l : CommandList) : Prop := l.finalized = false → ∃ inside, l.At inside

theorem CommandList.At.inOrder {inside : Bool} {l : CommandList} (h : l.At inside) : l.InOrder :=
  fun _ => ⟨inside, h⟩

theorem CommandList.At.push {inside next : Bool} {l : CommandList} (h : l.At inside)
    {command : Recorded} (allowed : Recorded.next? inside command = some next) :
    (l.commands.push command).toList.foldlM Recorded.next? false = some next := by
  rw [Array.toList_push, List.foldlM_append, h.commands]
  simp [allowed]

/-- Once the open render pass is closed, a list ends outside of one. -/
theorem CommandList.At.closed {inside : Bool} {l : CommandList} (h : l.At inside) :
    l.closed.foldlM Recorded.next? false = some false := by
  rw [CommandList.closed, List.foldlM_append, h.commands, h.target]
  cases inside <;> rfl

namespace Recording

variable {α β : Type} {inside : Bool}

/-- Whatever is recorded is of the same side of the render pass that the list is in. -/
def Stays (inside : Bool) (r t : Recording) : Prop := r.list.At inside → t.list.At inside

instance : Evolution (Stays inside) where
  refl _ := id
  trans first second := second ∘ first

theorem stays_onDevice (a : Action (Live Gpu) α) : (onDevice a).Evolves (Stays inside) := by
  intro r
  rw [wp_onDevice]
  unfold wp
  cases a r.live with
  | ok => exact id
  | error => exact id

theorem stays_push {command : Recorded} (allowed : Recorded.next? inside command = some inside) :
    (push command).Evolves (Stays inside) :=
  fun _ h => ⟨h.target, h.push allowed, h.bound⟩

theorem stays_bindSet (binder : Binder) (index : UInt32) (layout : CacheHandle)
    (slots : SetLayout) : (bindSet binder index layout slots).Evolves (Stays inside) := by
  refine (stays_onDevice _).bind fun set => .bind ?_ fun _ => ?_
  · exact evolves_updateList fun r h => ⟨h.target, h.commands, h.bound⟩
  · refine (stays_onDevice _).bind fun group => stays_push ?_
    cases inside <;> rfl

theorem stays_bindGeometry (binder : Binder) : (bindGeometry binder).Evolves (Stays true) :=
  evolves_bindGeometry binder (fun _ => stays_onDevice _) (fun _ _ _ => stays_push rfl)
    fun _ _ _ => stays_push rfl

/-! ## From one side of a render pass -/

/-- From a list on one side of a render pass, the action leaves a list in order, also if it
fails. -/
def OrderlyFrom (inside : Bool) (a : Action Recording α) : Prop :=
  ∀ r, r.list.At inside → a.wp (fun _ t => t.list.InOrder) (fun _ t => t.list.InOrder) r

theorem OrderlyFrom.ofStays {a : Action Recording α} (stays : a.Evolves (Stays inside)) :
    OrderlyFrom inside a :=
  fun r h => (stays r).mono (fun _ _ keeps => (keeps h).inOrder) fun _ _ keeps => (keeps h).inOrder

theorem OrderlyFrom.after {a : Action Recording β} {f : β → Action Recording α}
    (stays : a.Evolves (Stays inside)) (rest : ∀ x, OrderlyFrom inside (f x)) :
    OrderlyFrom inside (a >>= f) := by
  intro r h
  rw [wp_bind]
  exact (stays r).mono (fun x t keeps => rest x t (keeps h)) fun _ _ keeps => (keeps h).inOrder

/-- After the check a list is outside of render passes. -/
theorem orderly_checkOutsidePass {what : String} {rest : Action Recording α}
    (outside : OrderlyFrom false rest) :
    OrderlyFrom inside (checkOutsidePass what >>= fun _ => rest) := by
  intro r h
  rw [wp_bind, wp_checkOutsidePass]
  refine ⟨fun none => outside r ?_, fun _ => h.inOrder⟩
  have isOutside : false = inside := by rw [← h.target, none]; rfl
  exact isOutside ▸ h

/-- Where an assertion about the pass holds, the list is on the side that it names. -/
theorem orderly_assertTarget (side : Bool) {holds : CommandList → Bool} {failed : Assertion}
    {rest : Action Recording α} (names : ∀ l, holds l = true → l.target.isSome = side)
    (orderly : OrderlyFrom side rest) :
    OrderlyFrom inside (do
      Action.assert (holds (← current)) failed
      rest) := by
  intro r h
  rw [wp_bind, wp_current, wp_bind, wp_assert]
  refine ⟨fun held => orderly r ?_, fun _ => h.inOrder⟩
  have same : side = inside := (names _ held).symm.trans h.target
  exact same ▸ h

/-- The action keeps a list in order, also if it fails. -/
def KeepsOrder (a : Action Recording α) : Prop :=
  ∀ r, r.list.InOrder → a.wp (fun _ t => t.list.InOrder) (fun _ t => t.list.InOrder) r

/-- A finalized list stays as it is; any other is on one side of a render pass. -/
theorem keepsOrder_checkRecording {rest : Action Recording α}
    (orderly : ∀ inside, OrderlyFrom inside rest) :
    KeepsOrder (checkRecording >>= fun _ => rest) := by
  intro r order
  rw [wp_bind, wp_checkRecording]
  refine ⟨fun recording => ?_, fun _ => order⟩
  obtain ⟨inside, h⟩ := order recording
  exact orderly inside r h

/-! ## The recording calls -/

/-- A raster pipeline is bound inside a pass only. -/
theorem stays_updateBound {b : BoundPipeline} (allowed : b.graphics = true → inside = true) :
    (updateList fun l => { l with bound := some b }).Evolves (Stays inside) := by
  refine evolves_updateList fun r h => ⟨h.target, h.commands, fun b' bound => ?_⟩
  cases bound
  exact allowed

theorem keepsOrder_bindPipeline (pipeline : Pipeline) : KeepsOrder (bindPipeline pipeline) := by
  refine keepsOrder_checkRecording fun inside => ?_
  cases kind : pipeline.kind with
  | compute native =>
    refine orderly_checkOutsidePass (.ofStays ((stays_push rfl).bind fun _ => ?_))
    refine stays_updateBound fun graphics => ?_
    simp [Pipeline.isGraphics, kind] at graphics
  | raster template =>
    intro r h
    rw [wp_bind, wp_current, wp_bind, wp_orRefuse]
    refine ⟨fun target found => ?_, fun _ => h.inOrder⟩
    have isInside : inside = true := by rw [← h.target, found]; rfl
    subst isInside
    refine OrderlyFrom.ofStays ?_ r h
    refine (stays_onDevice _).bind fun info => (stays_onDevice _).bind fun native => ?_
    refine (stays_push rfl).bind fun _ => (stays_push rfl).bind fun _ => ?_
    exact stays_updateBound fun _ => rfl

theorem keepsOrder_bindResources (binder : Binder) : KeepsOrder (bindResources binder) := by
  refine keepsOrder_checkRecording fun inside r h => ?_
  rw [wp_bind, wp_current, wp_bind, wp_orRefuse]
  refine ⟨fun bound isBound => ?_, fun _ => h.inOrder⟩
  refine OrderlyFrom.after (.forM fun _ => stays_bindSet _ _ _ _) (fun _ => ?_) r h
  split
  · -- Only raster pipelines bind geometry, and those are bound inside a pass only.
    rename_i graphics
    cases h.bound bound isBound graphics
    exact .ofStays (stays_bindGeometry binder)
  · exact .ofStays (.pure _)

theorem keepsOrder_barrier : KeepsOrder barrier := by
  refine keepsOrder_checkRecording fun inside => .ofStays (stays_push ?_)
  cases inside <;> rfl

theorem keepsOrder_copy (dst src : Pointer) (size : UInt64) : KeepsOrder (copy dst src size) := by
  refine keepsOrder_checkRecording fun inside => orderly_checkOutsidePass (.ofStays ?_)
  refine (stays_onDevice _).bind fun srcRange => ?_
  refine (stays_onDevice _).bind fun dstRange => ?_
  exact (Evolves.require _ _).bind fun _ => stays_push rfl

theorem keepsOrder_fill (pointer : Pointer) (size : UInt64) (word : UInt32) :
    KeepsOrder (fill pointer size word) := by
  refine keepsOrder_checkRecording fun inside => orderly_checkOutsidePass (.ofStays ?_)
  refine (stays_onDevice _).bind fun range => ?_
  refine (Evolves.require _ _).bind fun _ => .ite (.pure _) (.ite (stays_push rfl) ?_)
  exact (stays_onDevice _).bind fun pattern => stays_push rfl

theorem keepsOrder_dispatch (x y z : UInt32) : KeepsOrder (dispatch x y z) := by
  refine keepsOrder_checkRecording fun inside => ?_
  refine orderly_assertTarget false (fun l none => ?_) (.ofStays (stays_push rfl))
  rw [Option.isSome_eq_false_iff, none]

theorem keepsOrder_beginPass (area : RenderArea) (colors : List Attachment)
    (depth : Option Attachment) : KeepsOrder (beginPass area colors depth) := by
  refine keepsOrder_checkRecording fun inside => orderly_checkOutsidePass ?_
  refine .after (stays_onDevice _) fun c => .after (stays_onDevice _) fun d => ?_
  refine .after (Evolves.orRefuse _ _) fun extent => ?_
  refine .after (stays_onDevice _) fun pass => .after (stays_onDevice _) fun framebuffer => ?_
  refine .after (stays_onDevice _) fun fb => .after (stays_onDevice _) fun info => ?_
  refine .after (Evolves.require _ _) fun _ r h => ?_
  rw [wp_bind, wp_push, wp_updateList]
  exact CommandList.At.inOrder ⟨rfl, h.push rfl, fun _ _ _ => rfl⟩

theorem keepsOrder_endPass : KeepsOrder endPass := by
  refine keepsOrder_checkRecording fun inside => ?_
  refine orderly_assertTarget true (fun _ => id) fun r h => ?_
  rw [wp_bind, wp_updateList, wp_push]
  -- A raster pipeline does not stay bound after its pass.
  refine CommandList.At.inOrder ⟨rfl, h.push rfl, fun b bound graphics => ?_⟩
  obtain ⟨-, compute⟩ := Option.filter_eq_some_iff.1 bound
  rw [graphics] at compute
  cases compute

theorem keepsOrder_draw (count first : UInt32) : KeepsOrder (draw count first) := by
  refine keepsOrder_checkRecording fun inside => ?_
  refine orderly_assertTarget true (fun _ => id) (.ofStays ?_)
  split
  · exact stays_push rfl
  · exact .pure _

theorem keepsOrder_drawIndexed (count baseVertex first : UInt32) :
    KeepsOrder (drawIndexed count baseVertex first) := by
  refine keepsOrder_checkRecording fun inside => ?_
  refine orderly_assertTarget true (fun _ => id) (.ofStays (.ite ?_ (.pure _)))
  split
  · exact stays_push rfl
  · exact .pure _

end Recording

/-- Every recording call keeps a list in order, also when it fails on the way. -/
theorem RecordingCall.keepsOrder (call : RecordingCall) : Recording.KeepsOrder call.run := by
  cases call with
  | bindPipeline pipeline => exact Recording.keepsOrder_bindPipeline pipeline
  | bindResources binder => exact Recording.keepsOrder_bindResources binder
  | barrier => exact Recording.keepsOrder_barrier
  | copy dst src size => exact Recording.keepsOrder_copy dst src size
  | fill pointer size word => exact Recording.keepsOrder_fill pointer size word
  | dispatch x y z => exact Recording.keepsOrder_dispatch x y z
  | beginPass area colors depth => exact Recording.keepsOrder_beginPass area colors depth
  | endPass => exact Recording.keepsOrder_endPass
  | draw count first => exact Recording.keepsOrder_draw count first
  | drawIndexed count baseVertex first => exact Recording.keepsOrder_drawIndexed _ _ _

theorem Recording.keepsOrder_finalize : KeepsOrder (discard finalize) := by
  intro r order
  rw [wp_discard, wp_finalize]
  exact ⟨fun _ => order, fun _ recording => nomatch recording⟩

/-! ## Clients -/

namespace Client

def ListsInOrder (c : Client) : Prop := ∀ list ∈ c.lists, list.InOrder

theorem listsInOrder_fresh {c : Client} (fresh : c.Fresh) : c.ListsInOrder := by
  cases fresh
  exact nofun

theorem ListsInOrder.onList {c : Client} (h : c.ListsInOrder) (i : Nat)
    {action : Action Recording Unit} (keeps : Recording.KeepsOrder action) :
    (c.onList i action).2.ListsInOrder := by
  unfold Client.onList
  split
  · exact h
  · rename_i list found
    intro other member
    rcases List.mem_or_eq_of_mem_set member with member | rfl
    · exact h other member
    · have ended := keeps ⟨c.live, list⟩ (h list (List.mem_of_getElem? found))
      exact wp.outcome (P := fun o : Except Fault Unit × Recording => o.2.list.InOrder) ended

theorem ListsInOrder.eraseIdx {c : Client} (h : c.ListsInOrder) (i : Nat) :
    ListsInOrder { c with lists := c.lists.eraseIdx i } :=
  fun list member => h list (List.mem_of_mem_eraseIdx member)

theorem newList_inOrder {c c' : Client} {list : CommandList}
    (made : c.onDevice Gpu.newList = (.ok list, c')) : list.InOrder := by
  have isNew : Gpu.newList.wp (fun list _ => list.InOrder) (fun _ _ => True) c.live := by
    have empty (buffer : CommandBufferId) : CommandList.At false { buffer } := ⟨rfl, rfl, nofun⟩
    rw [Gpu.wp_newList]
    split
    · exact (empty _).inOrder
    · split
      · trivial
      · exact (empty _).inOrder
  have result := wp.outcome (P := fun o => ∀ list, o.1 = .ok list → list.InOrder)
    (isNew.mono (fun _ _ inOrder _ same => Except.ok.inj same ▸ inOrder) fun _ _ _ => nofun)
  exact result list (congrArg Prod.fst made)

theorem onDevice_lists {α : Type} {c c' : Client} {action : Action (Live Gpu) α}
    {result : Except Fault α} (called : c.onDevice action = (result, c')) :
    c'.lists = c.lists := by
  cases called
  rfl

/-- The list of a launch is used up at once; the client's lists are as they were. -/
theorem launch_lists (stream kernel : UInt32) (mapping : Mapping) (c : Client) :
    ((Call.launch stream kernel mapping).step c).2.lists = c.lists := by
  simp only [Call.step]
  split
  · exact onDevice_lists ‹_›
  · rename_i prepared
    split
    · exact (onDevice_lists ‹_›).trans (onDevice_lists prepared)
    · rename_i made
      exact (onDevice_lists made).trans (onDevice_lists prepared)

end Client

/-- A list is new, or it was in order before the call and the call kept it so. -/
theorem Call.listsInOrder (call : Call) (c : Client) (h : c.ListsInOrder) :
    (call.step c).2.ListsInOrder := by
  cases call with
  | newList =>
    simp only [Call.step]
    split
    · rename_i list c' made
      intro other member
      rw [Client.onDevice_lists made] at member
      rcases List.mem_append.1 member with member | member
      · exact h other member
      · cases List.mem_singleton.1 member
        exact Client.newList_inOrder made
    · rename_i e c' failed
      exact fun other member => h other (Client.onDevice_lists failed ▸ member)
  | record i call => exact h.onList i call.keepsOrder
  | finalize i => exact h.onList i Recording.keepsOrder_finalize
  | submit i wait =>
    simp only [Call.step]
    split
    · exact h
    · exact h.eraseIdx i
  | drop i =>
    simp only [Call.step]
    split
    · exact h
    · exact h.eraseIdx i
  | launch stream kernel mapping =>
    exact fun list member => h list (Client.launch_lists stream kernel mapping c ▸ member)
  | sync | device | script => exact h

/-- A list of a client that is still recording is finalized to a trace that does what was recorded,
with a render pass that was left open closed. -/
theorem Client.finalize_replays {c : Client} (reachable : c.Reachable) {list : CommandList}
    (held : list ∈ c.lists) (recording : list.finalized = false) :
    ∃ trace, (Recording.finalize.outcome ⟨c.live, list⟩).1 = .ok (some trace) ∧
      Replays list.closed trace := by
  have inOrder : c.ListsInOrder :=
    reachable.induct (fun _ => listsInOrder_fresh) fun call c => call.listsInOrder c
  obtain ⟨inside, h⟩ := inOrder list held recording
  refine ⟨encode list.closed, ?_, encode_replays h.closed⟩
  refine wp.outcome (P := fun o => o.1 = .ok (some (encode list.closed))) ?_
  rw [Recording.wp_finalize]
  exact ⟨fun finalized => absurd finalized (Bool.eq_false_iff.1 recording), fun _ => rfl⟩

/-- A draw in a render pass that is still open, after a dispatch. -/
theorem Client.finalize_replays_open_pass :
    let c := (opened ⟨1⟩).run
      [.newList, .record 0 (.dispatch 1 1 1), .device (.createImage .rgba8 4 4),
        .record 0 (.beginPass ⟨0, 0, 4, 4⟩ [⟨⟨⟨1⟩, 0⟩, true⟩] none), .record 0 (.draw 3 0)]
    ∃ list ∈ c.lists, list.finalized = false ∧ list.target.isSome = true ∧ list.commands.size = 3 ∧
      ∃ trace, (Recording.finalize.outcome ⟨c.live, list⟩).1 = .ok (some trace) ∧
        Replays list.closed trace := by
  intro c
  have reachable : c.Reachable := ⟨_, fresh_opened ⟨1⟩, _, rfl⟩
  obtain ⟨list, held, recording, isOpen, three⟩ : ∃ list ∈ c.lists,
      list.finalized = false ∧ list.target.isSome = true ∧ list.commands.size = 3 := by decide
  exact ⟨list, held, recording, isOpen, three, finalize_replays reachable held recording⟩

end DeviceLayer
