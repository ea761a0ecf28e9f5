import DeviceLayer.Proofs.FittingWorlds
import DeviceLayer.Proofs.MemoryFailures

/-!
# What memory calls do not fail for

Windows are checked twice: by the size that was asked for, and by the native buffer just before it
is used. Where all fits, only the first check can fail. Bytes that come from another device are an
object each, so they are never taken for the rest of an allocation.

* `Host.clear_readRange`, `Remote.clear_readRange`, … — devices without native buffers.
* `World.IsFull` — a device that has given all its ids.
* `MemoryRequest.faults` — the memory calls of any device.
-/

namespace DeviceLayer

open DeviceLayer.Action

/-! ## Faults of host memory -/

namespace Host

variable {h : Host}

theorem ofWindow_checkSpan {offset length total : Nat} {e : DeviceError}
    (failed : checkSpan offset length total = .error e) : (Fault.device e).ofWindow = false := by
  unfold checkSpan at failed
  split at failed
  · cases failed
  · cases failed
    rfl

/-- A block is looked up and used, or the call is refused. -/
theorem wp_behind {α : Type} {alloc : Allocation} {f : HostBlock → Action Host α}
    {Q : α → Host → Prop} {E : Fault → Host → Prop}
    (found : ∀ b, h.blocks.get? alloc.id = some b → (f b).wp Q E h)
    (refused : ∀ e, e.ofWindow = false → E e h) : (block alloc >>= f).wp Q E h := by
  simp only [block, checkOwner, wp_bind, wp_get, wp_require, wp_orRefuse]
  refine ⟨fun _ => ⟨found, fun _ => ?_⟩, fun _ => ?_⟩
  · exact refused _ rfl
  · exact refused _ rfl

theorem clear_allocate (params : AllocParams) :
    (allocate params).wp (fun _ _ => True)
      (fun e _ => e.ofWindow = true → h.nextAlloc = 0xFFFFFFFF) h := by
  simp only [allocate, wp_bind, wp_checked, wp_get, wp_check, wp_set, wp_pure]
  refine ⟨fun _ _ => ⟨fun _ _ => trivial, fun e failed _ => ?_⟩, fun e failed => ?_⟩
  · exact Gpu.takeNumber_eq_error failed
  · unfold checkBlock at failed
    split at failed
    · cases failed
      exact Fault.elim_ofWindow rfl
    · split at failed
      · cases failed
        exact Fault.elim_ofWindow rfl
      · cases failed

theorem clear_deallocate (alloc : Allocation) (h : Host) : (deallocate alloc).Clear h := by
  simp only [Clear, deallocate, discard_bind]
  exact wp_behind (fun _ _ => trivial) fun _ refused => refused

theorem clear_mapRange (pointer : Pointer) (size : UInt64) (h : Host) :
    (mapRange pointer size).Clear h := by
  refine wp_behind (fun b _ => ?_) fun _ refused => refused
  simp only [putBlock, wp_bind, wp_require, wp_checked, wp_modify, wp_pure]
  exact ⟨fun _ => ⟨fun _ _ => trivial, fun _ => ofWindow_checkSpan⟩, fun _ => rfl⟩

theorem clear_unmap (alloc : Allocation) (h : Host) : (unmap alloc).Clear h := by
  refine wp_behind (fun b _ => ?_) fun _ refused => refused
  simp only [putBlock, wp_bind, wp_require, wp_modify]
  exact ⟨fun _ => trivial, fun _ => rfl⟩

/-- What is read is no larger than the block that it is read from. -/
theorem clear_readRange (sized : h.Sized) (range : Range) :
    (readRange range).wp (fun data _ => data.size ≤ maxObject) (fun e _ => e.ofWindow = false)
      h := by
  refine wp_behind (fun b found => ?_) fun _ refused => refused
  simp only [wp_bind, wp_checked, wp_pure]
  refine ⟨fun _ span => ?_, fun _ => ofWindow_checkSpan⟩
  have inside := checkSpan_eq_ok span
  have small := sized.each found
  rw [Storage.size_slice inside]
  omega

theorem clear_writeRange (dst : Pointer) (data : Storage) (h : Host) :
    (writeRange dst data).Clear h := by
  refine wp_behind (fun b _ => ?_) fun _ refused => refused
  simp only [putBlock, wp_bind, wp_checked, wp_modify]
  exact ⟨fun _ _ => trivial, fun _ => ofWindow_checkSpan⟩

end Host

/-! ## Faults of devices behind a transport -/

namespace Remote

variable {s : Live Remote}

theorem ofWindow_window? {r : Remote} {start : Pointer} {length : Nat} {e : DeviceError}
    (failed : r.window? start length = .error e) : (Fault.device e).ofWindow = false := by
  unfold window? at failed
  split at failed
  · cases failed
    rfl
  · split at failed
    · cases failed
    · cases failed
      rfl

/-- The transport may fail; if it does not, the call goes on with the device as it is. -/
theorem wp_received {α : Type} {call : RemoteCall} {f : Unit → Action (Live Remote) α}
    {Q : α → Live Remote → Prop} {E : Fault → Live Remote → Prop}
    (goes : ∀ t : Live Remote, t.device = s.device → (f ()).wp Q E t)
    (failed : ∀ e t, e.ofWindow = false → E e t) : (receive call >>= f).wp Q E s := by
  simp only [receive, wp_bind, Live.wp_self, Live.wp_record]
  refine (wp_ite _ _).2 ⟨fun _ => ?_, fun _ => ?_⟩
  · exact failed _ _ rfl
  · exact goes _ rfl

theorem clear_allocate (params : AllocParams) :
    (allocate params).wp (fun _ _ => True)
      (fun e _ => e.ofWindow = true → s.device.nextAlloc = 0xFFFFFFFF) s := by
  refine wp_received (fun t same => ?_) fun _ _ => Fault.elim_ofWindow
  simp only [wp_bind, wp_assert, Live.wp_self, wp_check, Live.wp_update, wp_pure, same]
  refine ⟨fun _ => ⟨fun _ _ => trivial, fun e failed _ => ?_⟩, fun _ => Fault.elim_ofWindow rfl⟩
  exact Gpu.takeNumber_eq_error failed

theorem clear_deallocate (alloc : Allocation) (s : Live Remote) : (deallocate alloc).Clear s :=
  wp_received (fun _ _ => trivial) fun _ _ clear => clear

theorem clear_readRange (sized : s.device.Sized) (range : Range) :
    (readRange range).wp (fun data _ => data.size ≤ maxObject) (fun e _ => e.ofWindow = false)
      s := by
  refine wp_received (fun t same => ?_) fun _ _ clear => clear
  simp only [wp_bind, Live.wp_self, wp_checked, wp_pure, same]
  refine ⟨fun bytes window => ?_, fun _ => ofWindow_window?⟩
  obtain ⟨found, inside⟩ := window?_eq_ok window
  have small := sized.each found
  rw [Storage.size_slice inside]
  omega

theorem clear_writeRange (dst : Pointer) (data : Storage) (s : Live Remote) :
    (writeRange dst data).Clear s := by
  refine wp_received (fun t _ => ?_) fun _ _ clear => clear
  simp only [wp_bind, Live.wp_self, wp_checked, Live.wp_update]
  exact ⟨fun _ _ => trivial, fun _ => ofWindow_window?⟩

end Remote

/-! ## Devices of any kind -/

namespace World

/-- The device has given all the ids that it has. -/
def IsFull (w : World) (key : DeviceKey) : Prop :=
  ∃ d, w.devices.get? key = some d ∧ d.nextAlloc = 0xFFFFFFFF

variable {α : Type} {key : DeviceKey} {w : World} {Q : α → Prop} {E : Fault → Prop}

/-- What holds of the results of a device of each kind holds of those of any. -/
theorem results_onDevice {host : Action Host α} {gpu : Action (Live Gpu) α}
    {remote : Action (Live Remote) α} (fit : w.Fit)
    (onHost : ∀ h, w.devices.get? key = some (.host h) → h.Sized →
      host.wp (fun x _ => Q x) (fun e _ => E e) h)
    (onGpu : ∀ g, w.devices.get? key = some (.gpu g) → Gpu.Fit ⟨w.platform, g⟩ →
      gpu.wp (fun x _ => Q x) (fun e _ => E e) ⟨w.platform, g⟩)
    (onRemote : ∀ r, w.devices.get? key = some (.remote r) → r.Sized →
      remote.wp (fun x _ => Q x) (fun e _ => E e) ⟨w.platform, r⟩)
    (missing : E gone) :
    (onDevice key host gpu remote).wp (fun x _ => Q x) (fun e _ => E e) w := by
  rw [wp_onDevice]
  split
  · exact missing
  · rename_i h found
    exact onHost h found (fit.each found)
  · rename_i g found
    exact onGpu g found (fit.each found)
  · rename_i r found
    exact onRemote r found (fit.each found)

theorem clear_allocate (fit : w.Fit) (params : AllocParams) :
    (allocate key params).wp (fun _ _ => True) (fun e _ => e.ofWindow = true → w.IsFull key) w := by
  refine results_onDevice fit (fun h found _ => ?_) (fun g found own => ?_) (fun r found _ => ?_)
    (Fault.elim_ofWindow rfl)
  · refine (Host.clear_allocate params).mono (fun _ _ _ => trivial) ?_
    exact fun _ _ last window => ⟨.host h, found, last window⟩
  · refine (Gpu.clear_allocate own params).mono (fun _ _ _ => trivial) ?_
    exact fun _ _ last window => ⟨.gpu g, found, last window⟩
  · refine (Remote.clear_allocate params).mono (fun _ _ _ => trivial) ?_
    exact fun _ _ last window => ⟨.remote r, found, last window⟩

theorem clear_deallocate (fit : w.Fit) (alloc : Allocation) : (deallocate key alloc).Clear w :=
  results_onDevice fit (fun h _ _ => Host.clear_deallocate alloc h)
    (fun _ _ _ => Gpu.clear_deallocate alloc _) (fun _ _ _ => Remote.clear_deallocate alloc _) rfl

theorem clear_mapRange (fit : w.Fit) (start : Pointer) (size : UInt64) :
    (mapRange key start size).Clear w :=
  results_onDevice fit (fun h _ _ => Host.clear_mapRange start size h)
    (fun _ _ own => Gpu.clear_mapRange own start size) (fun _ _ _ => rfl) rfl

theorem clear_unmap (fit : w.Fit) (alloc : Allocation) : (unmap key alloc).Clear w :=
  results_onDevice fit (fun h _ _ => Host.clear_unmap alloc h)
    (fun _ _ own => Gpu.clear_unmap own alloc) (fun _ _ _ => rfl) rfl

theorem clear_readRange (fit : w.Fit) (range : Range) :
    (readRange key range).wp (fun data _ => data.size < maxWord) (fun e _ => e.ofWindow = false)
      w := by
  have object {n : Nat} (small : n ≤ maxObject) : n < maxWord :=
    Nat.lt_of_le_of_lt small (by decide)
  refine results_onDevice fit (fun h _ sized => ?_) (fun g _ own => Gpu.clear_readRange own range)
    (fun r _ sized => ?_) rfl
  · exact (Host.clear_readRange sized range).mono (fun _ _ => object) fun _ _ clear => clear
  · have read := Remote.clear_readRange (s := ⟨w.platform, r⟩) sized range
    exact read.mono (fun _ _ => object) fun _ _ clear => clear

theorem clear_writeRange (fit : w.Fit) (dst : Pointer) {data : Storage}
    (short : data.size < maxWord) : (writeRange key dst data).Clear w :=
  results_onDevice fit (fun h _ _ => Host.clear_writeRange dst data h)
    (fun _ _ own => Gpu.clear_writeRange own dst short)
    (fun _ _ _ => Remote.clear_writeRange dst data _) rfl

theorem clear_stage (fit : w.Fit) (dst : Pointer) (src : Range) (source : DeviceKey) :
    (stage key dst src source).Clear w := by
  have read := (clear_readRange fit src).and (asks_steps.readRange source src w)
  refine (wp_bind _ _).2 (read.mono ?_ fun _ _ => And.left)
  rintro data w' ⟨short, step⟩
  exact clear_writeRange (step fit).1 dst short

/-- Wherever the bytes come from, there is no more to them than can be written. -/
theorem clear_transfer (fit : w.Fit) (dst : Pointer) (src : Range) (source : DeviceKey) :
    (transfer key dst src source).Clear w := by
  simp only [Clear, transfer, device, wp_bind, wp_get]
  cases found : w.devices.get? key with
  | none => rfl
  | some d =>
    cases d with
    | host | remote =>
      simp only [wp_orRefuse_some, wp_bind, wp_require]
      exact ⟨fun _ => clear_stage fit dst src source, fun _ => rfl⟩
    | gpu g =>
      simp only [wp_orRefuse_some, wp_bind]
      have tried : (onGpu key (Gpu.copyWithin dst src)).Clear w :=
        results_onDevice fit (fun _ _ _ => rfl) (fun _ _ _ => Gpu.clear_copyWithin dst src _)
          (fun _ _ _ => rfl) rfl
      refine (tried.and (asks_steps.copyWithin key dst src w)).mono ?_ fun _ _ => And.left
      rintro copied w' ⟨_, step⟩
      have fit' := (step fit).1
      exact (wp_ite _ _).2 ⟨fun _ => clear_stage fit' dst src source, fun _ => trivial⟩

end World

/-- What the caller gives is an object of the host. -/
def MemoryRequest.Sized : MemoryRequest → Prop
  | .writeRange _ data => data.size ≤ maxObject
  | _ => True

/-- Where all fits, a memory call fails for no window. A word is left only by the count of ids, at
the very end of it. -/
theorem MemoryRequest.faults {w : World} (fit : w.Fit) (key : DeviceKey) {request : MemoryRequest}
    (sized : request.Sized) :
    (request.run key).wp (fun _ _ => True)
      (fun e _ => e.ofWindow = true →
        (∃ params, request = .allocate params) ∧ w.IsFull key) w := by
  have clear {a : Action World Unit} (h : a.Clear w) :
      a.wp (fun _ _ => True)
        (fun e _ => e.ofWindow = true →
          (∃ params, request = .allocate params) ∧ w.IsFull key) w := by
    exact h.mono (fun _ _ _ => trivial) fun _ _ => Fault.elim_ofWindow
  cases request with
  | allocate params =>
    refine (wp_discard _).2 ((World.clear_allocate fit params).mono (fun _ _ _ => trivial) ?_)
    exact fun _ _ full window => ⟨⟨params, rfl⟩, full window⟩
  | deallocate alloc => exact clear (World.clear_deallocate fit alloc)
  | map alloc => exact clear ((wp_discard _).2 (World.clear_mapRange fit _ _))
  | mapRange start size => exact clear ((wp_discard _).2 (World.clear_mapRange fit start size))
  | unmap alloc => exact clear (World.clear_unmap fit alloc)
  | readRange range =>
    refine clear ((wp_discard _).2 ((World.clear_readRange fit range).mono ?_ ?_))
    · exact fun _ _ _ => trivial
    · exact fun _ _ never => never
  | writeRange dst data =>
    have short : data.size < maxWord := Nat.lt_of_le_of_lt sized (by decide)
    exact clear (World.clear_writeRange fit dst short)
  | transfer dst src source => exact clear (World.clear_transfer fit dst src source)

end DeviceLayer
