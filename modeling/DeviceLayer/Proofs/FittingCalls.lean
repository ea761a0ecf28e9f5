import DeviceLayer.Proofs.CommandMemory
import DeviceLayer.Proofs.Fitting

/-!
# What the holder of a fitting device asks for

All that a holder queues it has recorded, or taken from a list that it finalized. So whatever it
asks, in whatever order, the queue is asked only for what fits.

* `MemoryCall.asks`, `DeviceCall.asks` — calls to the device itself.
* `Holder.Fit` — the device, the lists and the commands that were taken from lists fit.
* `Holder.Asks`, `Request.asks` — a request keeps that, and asks the queue for no more.
-/

namespace DeviceLayer

open DeviceLayer.Action

theorem MemoryCall.asks (call : MemoryCall) : call.run.Evolves Gpu.Asks := by
  open Gpu in
  cases call with
  | allocate params => exact (asks_allocate params).map _
  | deallocate alloc => exact (asks_deallocate alloc).bind fun _ => .pure _
  | map alloc => exact (asks_mapRange _ _).map _
  | mapRange start size => exact (asks_mapRange start size).map _
  | unmap alloc => exact (asks_unmap alloc).bind fun _ => .pure _
  | read range => exact (asks_readRange range).map _
  | write dst data => exact (asks_writeRange dst data).bind fun _ => .pure _
  | readRegion region => exact evolves_self.bind fun _ => .pure _
  | writeRegion region offset data =>
    intro s
    simp only [MemoryCall.run, wp_bind, Live.wp_self, wp_ite, Live.wp_update, wp_pure,
      Bool.and_eq_true, decide_eq_true_eq]
    refine ⟨fun bounds => ?_, fun _ => Evolution.refl s⟩
    exact asks_writeRegion s bounds.1 bounds.2

/-- Only commands from elsewhere have to be looked at before they are queued. -/
theorem DeviceCall.asks (call : DeviceCall) (own : ∀ commands, call ≠ .queueNative commands) :
    call.run.Evolves Gpu.Asks := by
  open Gpu in
  cases call with
  | memory call => exact call.asks.discard
  | copyWithin dst src => exact (asks_copyWithin dst src).discard
  | waitIdle => exact framed_wait none
  | queueNative commands => exact absurd rfl (own commands)
  | createImage | importImage | bindView | destroyImage => exact DeviceCall.framedImage _ rfl
  | _ => exact DeviceCall.framed _ rfl

/-! ## Holders -/

namespace Holder

/-- The device fits, and so will all that waits to be queued. -/
structure Fit (h : Holder) : Prop where
  device : Gpu.Fit h.client.live
  lists : ∀ list ∈ h.client.lists, list.Fits h.client.live.platform.contents
  taken : ∀ commands ∈ h.taken, ∀ command ∈ commands,
    command.Fits h.client.live.platform.contents

def Asks (h h' : Holder) : Prop :=
  h.Fit → h'.Fit ∧ h.client.live.platform.Asks h'.client.live.platform

variable {h h' : Holder} {i : Nat} {list : CommandList}

theorem Fit.found (fit : h.Fit) (found : h.client.lists[i]? = some list) :
    Recording.Fit ⟨h.client.live, list⟩ :=
  ⟨fit.device, fit.lists list (List.mem_of_getElem? found)⟩

/-- What was there fits as before; what is new has to be looked at. -/
theorem Fit.stepped (fit : h.Fit) (asks : Gpu.Asks h.client.live h'.client.live)
    (lists : ∀ list ∈ h'.client.lists,
      list ∈ h.client.lists ∨ list.Fits h'.client.live.platform.contents)
    (taken : ∀ commands ∈ h'.taken, commands ∈ h.taken ∨
      ∀ command ∈ commands, command.Fits h'.client.live.platform.contents) :
    h'.Fit ∧ h.client.live.platform.Asks h'.client.live.platform := by
  obtain ⟨device, asked⟩ := asks fit.device
  refine ⟨⟨device, fun list member => ?_, fun commands member => ?_⟩, asked⟩
  · rcases lists list member with before | new
    · exact (fit.lists list before).lasts asked.lasts
    · exact new
  · rcases taken commands member with before | new
    · exact fun command inside => (fit.taken commands before command inside).lasts asked.lasts
    · exact new

/-- Only the device takes a step. -/
theorem asks_of_live (asks : Gpu.Asks h.client.live h'.client.live)
    (lists : h'.client.lists = h.client.lists) (taken : h'.taken = h.taken) : Asks h h' := by
  intro fit
  refine fit.stepped asks (fun list member => .inl ?_) fun commands member => .inl ?_
  · rwa [← lists]
  · rwa [← taken]

theorem asks_newList (h : Holder) :
    Asks h { h with client := (Call.newList.step h.client).2 } := by
  have made := Gpu.wp_newList_framed (S := Gpu.Asks) h.client.live
  simp only [Call.step, Client.onDevice]
  cases ran : Gpu.newList.outcome h.client.live with
  | mk result t =>
    cases result with
    | ok new =>
      obtain ⟨⟨buffer, rfl⟩, asks⟩ := made.ended ran
      refine fun fit => fit.stepped asks (fun list member => ?_) fun _ member => .inl member
      rcases List.mem_append.1 member with before | new
      · exact .inl before
      · obtain rfl := List.mem_singleton.1 new
        exact .inr (.of_empty rfl)
    | error e => exact asks_of_live (made.failed ran) rfl rfl

/-- A list is recorded, or its recording ends. -/
theorem asks_onList (i : Nat) {action : Action Recording Unit}
    (asks : action.Evolves Recording.Asks) (h : Holder) :
    Asks h { h with client := (h.client.onList i action).2 } := by
  intro fit
  unfold Client.onList
  split
  · exact ⟨fit, Evolution.refl _⟩
  · rename_i list found
    have step := asks.outcome ⟨h.client.live, list⟩
    obtain ⟨fit', asked⟩ := step (fit.found found)
    have device : Gpu.Asks h.client.live (action.outcome ⟨h.client.live, list⟩).2.live :=
      fun _ => ⟨fit'.device, asked⟩
    refine fit.stepped device (fun list' member => ?_) fun _ member => .inl member
    rcases List.mem_or_eq_of_mem_set member with before | rfl
    · exact .inl before
    · exact .inr fit'.list

/-- What a list hands out fits the buffers as they are. -/
theorem Fit.handsOut (fit : h.Fit) {commands : List Command}
    (handed : h.client.handsOut? i = some commands) :
    ∀ command ∈ commands, command.Fits h.client.live.platform.contents := by
  unfold Client.handsOut? at handed
  split at handed
  · cases handed
  · rename_i list found
    rw [Recording.outcome_finalize] at handed
    cases finalized : list.finalized with
    | true => simp [finalized] at handed
    | false =>
      have same : encode list.closed = commands := by simpa [finalized] using handed
      rw [← same]
      exact (fit.found found).list.encoded

theorem asks_finalize (h : Holder) (i : Nat) : Asks h ((Request.ask (.finalize i)).step h) := by
  intro fit
  obtain ⟨fit', asked⟩ := asks_onList i Recording.asks_finalize.discard h fit
  refine ⟨⟨fit'.device, fit'.lists, fun commands member => ?_⟩, asked⟩
  rcases List.mem_append.1 member with before | handed
  · exact fit'.taken commands before
  · have fits := fit.handsOut (Option.mem_toList.1 handed)
    exact fun command inside => (fits command inside).lasts asked.lasts

/-- A list is gone, and the device takes a step. -/
theorem asks_erased (device : Gpu.Asks h.client.live h'.client.live)
    (lists : h'.client.lists = h.client.lists.eraseIdx i) (taken : h'.taken = h.taken) :
    Asks h h' := by
  intro fit
  refine fit.stepped device (fun list member => .inl ?_) fun commands member => .inl ?_
  · rw [lists] at member
    exact List.mem_of_mem_eraseIdx member
  · rwa [← taken]

theorem asks_submit (h : Holder) (i : Nat) (wait : Bool) :
    Asks h { h with client := ((Call.submit i wait).step h.client).2 } := by
  simp only [Call.step]
  split
  · exact fun fit => ⟨fit, Evolution.refl _⟩
  · rename_i list found
    intro fit
    have ended := (Recording.asks_queue wait).outcome ⟨h.client.live, list⟩
    obtain ⟨fit', queued⟩ := ended (fit.found found)
    obtain ⟨device, dropped⟩ := Gpu.framed_afterDrop (S := Gpu.Asks) _ fit'.device
    exact asks_erased (fun _ => ⟨device, Evolution.trans queued dropped⟩) rfl rfl fit

theorem asks_drop (h : Holder) (i : Nat) :
    Asks h { h with client := ((Call.drop i).step h.client).2 } := by
  simp only [Call.step]
  split
  · exact fun fit => ⟨fit, Evolution.refl _⟩
  · rename_i list found
    exact asks_erased (Gpu.framed_afterDrop ⟨h.client.live, list⟩) rfl rfl

/-- What was taken from a list fits still when it is queued. -/
theorem asks_queue (h : Holder) (i : Nat) : Asks h ((Request.queue i).step h) := by
  simp only [Request.step]
  split
  · exact fun fit => ⟨fit, Evolution.refl _⟩
  · rename_i commands found
    intro fit
    have live : ((Call.device (.queueNative commands)).step h.client).2.live =
        { h.client.live with
          platform := (h.client.live.platform.submit .commandList commands).2 } :=
      outcome_discard _ _
    have queued : Gpu.Asks h.client.live
        ((Call.device (.queueNative commands)).step h.client).2.live := by
      rw [live]
      exact Gpu.asks_submit .commandList (fit.taken commands (List.mem_of_getElem? found))
    refine fit.stepped queued (fun _ member => .inl member) fun _ member => .inl ?_
    exact List.mem_of_mem_eraseIdx member

end Holder

/-- Whatever a holder asks of a device where all fits, all fits after it, and so does all that the
queue was asked for. -/
theorem Request.asks (request : Request) (own : request.isOwn = true) (h : Holder) :
    Holder.Asks h (request.step h) := by
  open Holder in
  cases request with
  | queue i => exact asks_queue h i
  | ask call =>
    cases call with
    | newList => exact asks_newList h
    | record i call => exact asks_onList i call.fits h
    | finalize i => exact asks_finalize h i
    | submit i wait => exact asks_submit h i wait
    | drop i => exact asks_drop h i
    | sync => exact asks_of_live (Gpu.framed_commandSync.outcome h.client.live) rfl rfl
    | launch stream kernel mapping =>
      have launched := (Gpu.asks_launchLocal stream kernel mapping).outcome h.client.live
      rw [← Client.launch_step] at launched
      exact asks_of_live launched (Client.launch_lists stream kernel mapping _) rfl
    | script answers =>
      have same : Gpu.Asks h.client.live { h.client.live with platform.script := answers } :=
        Gpu.asks_of_device rfl rfl (.of_lasts (Evolution.refl _) rfl)
      exact asks_of_live same rfl rfl
    | device call =>
      have stepped := call.asks fun commands same => by
        rw [same] at own
        cases own
      exact asks_of_live (stepped.outcome h.client.live) rfl rfl

end DeviceLayer
