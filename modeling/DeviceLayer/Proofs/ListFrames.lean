import DeviceLayer.Proofs.Clients
import DeviceLayer.Proofs.RecordingFrames

/-!
# What clients leave alone

Command lists are made, recorded, queued and dropped, and waited for. A relation that allows what
becomes of command buffers and descriptor sets meanwhile, and of memory, holds from the device
before a call of a client to the device after it.

* `Gpu.ListFrame` — relations that allow what becomes of command buffers and descriptor sets.
* `Recording.OfLive` — a relation on devices, whatever becomes of the list at hand.
* `Call.builds`, `framedPlain` — the calls that build no native pipeline for rendering.
* `Call.framed` — every call of a client but those for images.
* `Call.framedImage` — and those, for relations that allow images to come and go.
-/

namespace DeviceLayer

open DeviceLayer.Action

namespace Gpu

/-- A relation that allows at least what becomes of command buffers and descriptor sets, and to wait
for what was queued. -/
class ListFrame (S : Live Gpu → Live Gpu → Prop) : Prop extends Frame S where
  custody : ∀ {s : Live Gpu} (tracker : SubmissionTracker CommandBufferId SetHandle Platform.Fence)
    (nextCommandBuffer : UInt32),
      S s { s with device := { s.device with tracker, nextCommandBuffer } }
  pool : ∀ {s : Live Gpu} (layout : CacheHandle)
    (f : DescriptorPool UInt32 → DescriptorPool UInt32),
      S s { s with device := { s.device with
        layouts := s.device.layouts.modify layout fun e => { e with pool := f e.pool } } }
  polled : ∀ {s : Live Gpu} (fence : Option Platform.Fence),
    S s { s with platform := s.platform.polled s.device.connection fence }

theorem wp_usingList {α : Type} {list : CommandList} {action : Action Recording α}
    {Q : α → Live Gpu → Prop} {E : Fault → Live Gpu → Prop} {s : Live Gpu} :
    (usingList list action).wp Q E s ↔
      action.wp (fun x r => Q x (afterDrop r)) (fun e r => E e (afterDrop r)) ⟨s, list⟩ := by
  unfold wp usingList
  cases action ⟨s, list⟩ <;> rfl

variable {S : Live Gpu → Live Gpu → Prop} [ListFrame S]

theorem framed_wait (fence : Option Platform.Fence) : (wait fence).Evolves S := by
  intro s
  have polled := ListFrame.polled (S := S) (s := s) fence
  simp only [wait, wp_bind, Live.wp_self, Live.wp_onPlatform]
  exact (Platform.wp_poll _ _).2 ⟨fun _ => polled, fun _ => polled⟩

theorem framed_allocSet (layout : CacheHandle) : (allocSet layout).Evolves S := by
  refine (evolves_layoutEntry _).bind fun entry => (Evolves.checked _).bind fun (set, pool) => ?_
  exact .bind (Live.evolves_update fun _ => ListFrame.pool layout fun _ => pool) fun _ => .pure _

theorem framed_recycleSets (s : Live Gpu) (sets : List SetHandle) :
    S s { s with device := recycleSets sets s.device } := by
  induction sets generalizing s with
  | nil => exact Evolution.refl s
  | cons set sets ih =>
    exact Evolution.trans (ListFrame.pool set.layout fun pool => pool.recycle set.set) (ih _)

theorem framed_recycled (s : Live Gpu) (sets : List SetHandle)
    (tracker : SubmissionTracker CommandBufferId SetHandle Platform.Fence) :
    S s { s with device := recycleSets sets { s.device with tracker } } :=
  Evolution.trans (ListFrame.custody tracker s.device.nextCommandBuffer)
    (framed_recycleSets { s with device.tracker := tracker } sets)

theorem framed_afterDrop (r : Recording) : S r.live (afterDrop r) := framed_recycled r.live _ _

theorem wp_newList_framed (s : Live Gpu) :
    newList.wp (fun list t => (∃ buffer, list = { buffer }) ∧ S s t) (fun _ t => S s t) s := by
  rw [wp_newList]
  split
  · exact ⟨⟨_, rfl⟩, ListFrame.custody _ s.device.nextCommandBuffer⟩
  · split
    · exact Evolution.refl s
    · exact ⟨⟨_, rfl⟩, ListFrame.custody s.device.tracker _⟩

theorem framed_newList : newList.Evolves S := fun s =>
  (wp_newList_framed s).mono (fun _ _ => And.right) fun _ _ step => step

theorem framed_commandSync : commandSync.Evolves S := by
  refine evolves_self.bind fun g => .bind ?_ fun (sets, tracker) => ?_
  · exact (Evolves.forM fun _ => framed_wait _).bind fun _ => .pure _
  · exact Live.evolves_update fun s => framed_recycled s sets tracker

end Gpu

namespace Recording

/-- The relation between the devices of two recordings, whatever became of the list. -/
def OfLive (S : Live Gpu → Live Gpu → Prop) (r t : Recording) : Prop := S r.live t.live

variable {S : Live Gpu → Live Gpu → Prop}

instance [Evolution S] : Evolution (OfLive S) where
  refl r := Evolution.refl r.live
  trans first second := Evolution.trans (R := S) first second

theorem evolves_device {α : Type} {a : Action (Live Gpu) α} (h : a.Evolves S) :
    (onDevice a).Evolves (OfLive S) := evolves_onDevice h fun _ _ step => step

variable [Gpu.ListFrame S]

instance [Gpu.Growing S] : Gpu.Growing (OnLive (OfLive S)) where
  grows h _ := Gpu.Growing.grows (S := S) h

instance : Frame (OfLive S) where
  device := Gpu.Frame.mono (S := S) inferInstance fun _ _ step _ => step
  list _ _ := Evolution.refl (R := S) _
  takeSet layout r := Gpu.framed_allocSet layout r.live

theorem framed_submit [Gpu.MemoryFrame S] (wait : Bool) : (submit wait).Evolves (OfLive S) := by
  refine framed_finalize.bind fun commands => (Evolves.orRefuse _ _).bind fun _ => ?_
  refine (evolves_device (Gpu.framed_submit _ _)).bind fun fence => .ite ?_ ?_
  · exact evolves_device (Gpu.framed_wait _)
  · refine evolves_current.bind fun list => (evolves_device Gpu.evolves_self).bind fun g => ?_
    refine (Evolves.orRefuse _ _).bind fun tracker => evolves_device ?_
    exact Live.evolves_update fun s => Gpu.ListFrame.custody tracker s.device.nextCommandBuffer

end Recording

namespace Gpu

variable {S : Live Gpu → Live Gpu → Prop} [ListFrame S] [MemoryFrame S]

/-- The list of a launch is outside render passes, so that no variant is built. -/
theorem framed_queue (kernel : Kernel) (binder : Binder) {r : Recording}
    (outside : r.list.target = none) :
    (kernel.queue binder).wp (fun _ t => S r.live t.live) (fun _ t => S r.live t.live) r := by
  have rest : (do
      Recording.bindResources binder
      Recording.dispatch kernel.groups.1 kernel.groups.2.1 kernel.groups.2.2
      Recording.submit false).Evolves (Recording.OfLive S) := by
    refine (RecordingCall.framedPlain (.bindResources binder) rfl).bind fun _ => ?_
    exact (RecordingCall.framedPlain (.dispatch _ _ _) rfl).bind fun _ => Recording.framed_submit _
  have bound := Recording.framed_bindOutside (F := Recording.OfLive S) kernel.pipeline outside
  refine (wp_bind _ _).2 (bound.mono (fun _ t step => ?_) fun _ _ step => step)
  exact (rest t).mono (fun _ _ => Evolution.trans (R := S) step)
    fun _ _ => Evolution.trans (R := S) step

theorem framed_launchLocal (stream number : UInt32) (mapping : Mapping) :
    (launchLocal stream number mapping).Evolves S := by
  refine (evolves_prepareLaunch _ _ _).bind fun (kernel, binder) s => ?_
  refine (wp_bind _ _).2 ((wp_newList_framed s).mono ?_ fun _ _ step => step)
  rintro list t ⟨⟨buffer, rfl⟩, made⟩
  refine wp_usingList.2 ((framed_queue (S := S) (r := ⟨t, _⟩) kernel binder rfl).mono ?_ ?_)
  · exact fun _ r step => Evolution.trans made (Evolution.trans step (framed_afterDrop r))
  · exact fun _ r step => Evolution.trans made (Evolution.trans step (framed_afterDrop r))

end Gpu

/-! ## Calls of a client -/

theorem Client.framed_onList {S : Live Gpu → Live Gpu → Prop} [Evolution S] (c : Client) (i : Nat)
    {action : Action Recording Unit} (h : action.Evolves (Recording.OfLive S)) :
    S c.live (c.onList i action).2.live := by
  unfold onList
  split
  · exact Evolution.refl c.live
  · exact h.outcome ⟨c.live, _⟩

theorem Client.framed_newList {S : Live Gpu → Live Gpu → Prop} [Gpu.ListFrame S] (c : Client) :
    S c.live (Call.newList.step c).2.live := by
  have made : S c.live (c.onDevice Gpu.newList).2.live := Gpu.framed_newList.outcome c.live
  simp only [Call.step]
  split
  · rename_i ended
    rwa [ended] at made
  · rename_i ended
    rwa [ended] at made

theorem Client.framed_drop {S : Live Gpu → Live Gpu → Prop} [Gpu.ListFrame S] (c : Client)
    (i : Nat) : S c.live ((Call.drop i).step c).2.live := by
  simp only [Call.step]
  split
  · exact Evolution.refl c.live
  · rename_i list found
    exact Gpu.framed_afterDrop ⟨c.live, list⟩

def Call.ofImages : Call → Bool
  | .device call => call.ofImages
  | _ => false

/-- Whether the call may have a native pipeline built for rendering. -/
def Call.builds : Call → Bool
  | .record _ call => call.builds
  | _ => false

section

variable {S : Live Gpu → Live Gpu → Prop} [Gpu.ListFrame S] [Gpu.MemoryFrame S]

theorem Call.framedPlain (call : Call) (other : call.ofImages = false)
    (plain : call.builds = false) (c : Client) : S c.live (call.step c).2.live := by
  cases call with
  | newList => exact c.framed_newList
  | record i call => exact c.framed_onList i (call.framedPlain plain)
  | finalize i => exact c.framed_onList i Recording.framed_finalize.discard
  | submit i wait =>
    simp only [Call.step]
    split
    · exact Evolution.refl c.live
    · rename_i list found
      exact Evolution.trans ((Recording.framed_submit (S := S) wait).outcome ⟨c.live, list⟩)
        (Gpu.framed_afterDrop _)
  | drop i => exact c.framed_drop i
  | sync => exact Gpu.framed_commandSync.outcome c.live
  | launch stream kernel mapping =>
    have launched := (Gpu.framed_launchLocal (S := S) stream kernel mapping).outcome c.live
    rwa [← Client.launch_step] at launched
  | device call => exact (call.framedMemory other).outcome c.live
  | script answers =>
    exact Gpu.MemoryFrame.works
      ⟨Platform.Idle.advances ⟨rfl, rfl⟩, ⟨fun _ => rfl, Nat.le_refl _, rfl, rfl⟩, Nat.le_refl _,
        Evolution.refl _⟩

theorem Call.framed [Gpu.Growing S] (call : Call) (other : call.ofImages = false) (c : Client) :
    S c.live (call.step c).2.live := by
  cases call with
  | record i call => exact c.framed_onList i call.framed
  | _ => exact Call.framedPlain _ other rfl c

theorem Call.framedImage [Gpu.Growing S] [Gpu.ImageFrame S] (call : Call) (c : Client) :
    S c.live (call.step c).2.live := by
  cases ofImages : call.ofImages with
  | false => exact call.framed ofImages c
  | true =>
    cases call with
    | device call => exact (call.framedImage ofImages).outcome c.live
    | _ => cases ofImages

end

end DeviceLayer
