import DeviceLayer.Proofs.MemoryFailures

/-!
# What leaves the tables as they are

A device keeps its allocations and images in two tables. Memory calls and image calls change these,
and nothing else does: not recording, queueing or dropping lists, kernels or copies.

* `Gpu.KeepsTables` — allocations and images are the same, with their mappings.
* `Gpu.mapRange_takes`, `unmap_takes` — a mapping is put in place or taken out, and that is all.
* `Call.keepsTables` — what every other call of a client comes to.
-/

namespace DeviceLayer

open DeviceLayer.Action

namespace Gpu

/-- Allocations and images stay as they are. Native buffers may hold other bytes. -/
structure KeepsTables (s t : Live Gpu) : Prop where
  assigned : t.device.assigned = s.device.assigned
  buffers : t.device.buffers = s.device.buffers
  images : t.device.images = s.device.images
  nextAlloc : s.device.nextAlloc ≤ t.device.nextAlloc

theorem Still.keepsTables {s t : Live Gpu} (h : Still s t) : KeepsTables s t :=
  ⟨h.assigned, h.buffers, h.images, h.nextAlloc⟩

theorem keepsTables_of_device {s t : Live Gpu} (same : t.device = s.device) : KeepsTables s t := by
  obtain ⟨p, g⟩ := t
  subst same
  exact ⟨rfl, rfl, rfl, UInt32.le_refl _⟩

instance : Evolution KeepsTables where
  refl _ := keepsTables_of_device rfl
  trans first second :=
    ⟨second.assigned.trans first.assigned, second.buffers.trans first.buffers,
      second.images.trans first.images, UInt32.le_trans first.nextAlloc second.nextAlloc⟩

instance : Frame KeepsTables := Frame.mono (S := Still) inferInstance fun _ _ => Still.keepsTables

theorem keepsTables_onPlatform {α : Type} (a : Action Platform α) :
    (Live.onPlatform a : Action (Live Gpu) α).Evolves KeepsTables :=
  Live.evolves_onPlatform (.any a) fun _ _ _ => keepsTables_of_device rfl

theorem keepsTables_writeRange (dst : Pointer) (data : Storage) :
    (writeRange dst data).Evolves KeepsTables :=
  (evolves_checkedRange _ _).bind fun _ => keepsTables_onPlatform _

theorem keepsTables_submit (label : EncoderLabel) (commands : List Command) :
    (Live.request (Platform.submit label commands) : Action (Live Gpu) Platform.Fence).Evolves
      KeepsTables :=
  Live.evolves_request fun _ => keepsTables_of_device rfl

theorem keepsTables_copyWithin (dst : Pointer) (src : Range) :
    (copyWithin dst src).Evolves KeepsTables := by
  refine (evolves_checkLocal _).bind fun _ => evolves_self.bind fun g => .ite (.pure _) ?_
  refine (evolves_checkedRange _ _).bind fun _ => (evolves_checkedRange _ _).bind fun _ => ?_
  exact .ite ((keepsTables_submit _ _).discard.bind fun _ => .pure _) (.pure _)

/-! ## Mappings -/

/-- A mapping is put in place of none. -/
theorem mapRange_takes (p : Pointer) (size : UInt64) (s : Live Gpu) :
    (mapRange p size).wp
      (fun _ t => ∃ a m, s.device.buffers.get? p.allocId = some a ∧ a.mapping = none ∧
        t.device = { s.device with
          buffers := s.device.buffers.insert p.allocId { a with mapping := some m } })
      (fun _ t => t.device = s.device) s := by
  rw [mapRange, wp_bind]
  refine (evolves_checkedRange (S := Eq) p size s).mono ?_ ?_
  · rintro range _ rfl
    simp only [allocation, wp_bind, Live.wp_self, wp_orRefuse, wp_require, Live.wp_onPlatform,
      putBuffer, Live.wp_update, wp_pure, implies_true, and_true]
    intro a held _ free
    refine (Evolves.any _ _).mono (fun shadow _ _ => ?_) fun _ _ _ => trivial
    exact ⟨a, _, held, Option.isNone_iff_eq_none.1 free, rfl⟩
  · rintro e _ rfl
    rfl

/-- A mapping is taken out, also where copying back fails. -/
theorem unmap_takes (alloc : Allocation) (s : Live Gpu) :
    (unmap alloc).wp
      (fun _ t => alloc.device = s.device.id ∧ t.device = s.device.unmapped alloc.id)
      (fun _ t => t.device = s.device ∨
        alloc.device = s.device.id ∧ t.device = s.device.unmapped alloc.id) s := by
  have ended : (unmap alloc).wp
      (fun _ t => alloc.device = s.device.id ∧ t.device = s.device.unmapped alloc.id)
      (fun _ _ => True) s := by
    simp only [unmap, resolve, checkLocal, allocation, wp_bind, Live.wp_self, wp_require,
      wp_orRefuse, putBuffer, Live.wp_update, decide_eq_true_eq, implies_true, and_true]
    intro here a held mapping _
    have taken : s.device.unmapped alloc.id = { s.device with
        buffers := s.device.buffers.insert alloc.id { a with mapping := none } } :=
      unmapped_of_some held
    rw [taken]
    refine (wp_ite _ _).2 ⟨fun _ => ?_, fun _ => ⟨here, rfl⟩⟩
    refine (Live.wp_onPlatform _).2 ((Evolves.any _ _).mono (fun _ _ _ => ⟨here, rfl⟩) ?_)
    exact fun _ _ _ => trivial
  refine (ended.and (unmap_leaves alloc s)).mono (fun _ _ => And.left) ?_
  rintro e t ⟨-, device, -⟩
  split at device
  · rename_i here
    exact .inr ⟨here, device⟩
  · exact .inl device

end Gpu

theorem SubmitEnd.keepsTables {r t : Recording} {wait : Bool} {result : Except Fault Unit}
    (ended : SubmitEnd r wait result t) : Gpu.KeepsTables r.live (Gpu.afterDrop t) := by
  have queued : Gpu.KeepsTables r.live t.live := by
    cases ended with
    | refused => exact Evolution.refl r.live
    | waited | waitFailed | marked | twice => exact ⟨rfl, rfl, rfl, UInt32.le_refl _⟩
  exact Evolution.trans queued (Gpu.framed_afterDrop (S := Gpu.Still) t).keepsTables

/-- The calls that change a table of the device. -/
def Call.ofTables : Call → Bool
  | .device (.memory _) | .device (.createImage ..) | .device (.importImage ..)
  | .device (.bindView ..) | .device (.destroyImage _) => true
  | _ => false

theorem DeviceCall.keepsTables (call : DeviceCall) (other : (Call.device call).ofTables = false) :
    call.run.Evolves Gpu.KeepsTables := by
  open Gpu in
  cases call with
  | memory | createImage | importImage | bindView | destroyImage => cases other
  | copyWithin dst src => exact (keepsTables_copyWithin dst src).discard
  | queueNative commands => exact (keepsTables_submit _ commands).discard
  | waitIdle => exact (framed_wait none).mono fun _ _ => Still.keepsTables
  | _ => exact DeviceCall.framed _ rfl

theorem Call.keepsTables (call : Call) (other : call.ofTables = false) (c : Client) :
    Gpu.KeepsTables c.live (call.step c).2.live := by
  cases call with
  | submit i wait =>
    simp only [Call.step]
    split
    · exact Evolution.refl c.live
    · rename_i list found
      exact (wp.outcome (P := fun o => SubmitEnd ⟨c.live, list⟩ wait o.1 o.2)
        (Recording.submit_ends ⟨c.live, list⟩ wait)).keepsTables
  | device call => exact (call.keepsTables other).outcome c.live
  | _ => exact (Call.still _ rfl c).keepsTables

end DeviceLayer
