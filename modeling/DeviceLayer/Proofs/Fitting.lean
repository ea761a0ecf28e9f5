import DeviceLayer.Proofs.ListEffects
import DeviceLayer.Proofs.NativeCalls

/-!
# Devices that ask for what fits

An allocation has a native buffer that is as long or longer, in whole groups of bytes. So what lies
in the allocation lies in the buffer also after both its ends were moved outwards, and what is
recorded for it fits whenever it is queued.

* `Gpu.Fit`, `Gpu.Asks` — every allocation has room in its buffer; what keeps that, and asks the
  queue only for what fits.
* `Gpu.asks_readRange`, … — the operations of a device, and `clear_readRange`, … — their faults.
* `Recording.Fit`, `Recording.Asks` — the same of a device and a list that is recorded for it.
* `RecordingCall.fits`, `SubmitEnd.asks` — what a list records fits, and is asked for at the end.
* `Gpu.asks_launchLocal` — so does a kernel.
-/

namespace DeviceLayer

open DeviceLayer.Action

/-- A property of the state from which the relation holds may be taken for granted. -/
theorem Action.Evolves.given {σ α : Type} {I : σ → Prop} {R : σ → σ → Prop} {a : Action σ α}
    (h : ∀ s, I s → a.wp (fun _ t => R s t) (fun _ t => R s t) s) :
    a.Evolves fun s t => I s → R s t := by
  intro s
  by_cases holds : I s
  · exact (h s holds).mono (fun _ _ step _ => step) fun _ _ step _ => step
  · exact (Evolves.any a s).mono (fun _ _ _ now => absurd now holds)
      fun _ _ _ now => absurd now holds

/-- Whole groups of bytes of an allocation lie in its buffer. -/
theorem BufferAllocation.Backed.spans {p : Platform} {a : BufferAllocation} (h : a.Backed p)
    {offset size : Nat} (begins : isAligned offset = true) (sized : isAligned size = true)
    (inside : offset + size ≤ a.size) : p.contents.Spans a.buffer offset size :=
  ⟨h.roomy.known, begins, sized, Nat.le_trans inside h.room⟩

namespace Gpu

/-- Every allocation has room in its native buffer, and none will be made without. -/
structure Fit (s : Live Gpu) : Prop where
  limit : s.device.limits.Fit
  backed : ∀ {id a}, s.device.buffers.get? id = some a → a.Backed s.platform

/-- A device where all fits is one where all fits still, and has asked the queue for no more than
that. -/
def Asks (s t : Live Gpu) : Prop := Fit s → Fit t ∧ s.platform.Asks t.platform

instance : Evolution Asks where
  refl _ fit := ⟨fit, Evolution.refl _⟩
  trans := Platform.Asks.carry

variable {α : Type} {s t : Live Gpu} {p : Platform} {id : UInt32} {a : BufferAllocation}

theorem Fit.lasts (h : Fit s) (lasts : s.platform.contents.Lasts p.contents) :
    Fit { s with platform := p } where
  limit := h.limit
  backed held := (h.backed held).of_same lasts.grows (lasts.sized _ (h.backed held).roomy.known)

theorem asks_of_device (buffers : t.device.buffers = s.device.buffers)
    (limits : t.device.limits = s.device.limits) (asks : s.platform.Asks t.platform) :
    Asks s t := by
  intro fit
  have lasts := fit.lasts asks.lasts
  refine ⟨⟨?_, fun held => ?_⟩, asks⟩
  · rw [limits]
    exact fit.limit
  · rw [buffers] at held
    exact lasts.backed held

instance : Growing Asks where
  grows h := asks_of_device rfl rfl h.asks

instance : ImageFrame Asks where
  toFrame := .of fun h => asks_of_device h.buffers h.limits (Evolution.refl _)
  images _ := asks_of_device rfl rfl (Evolution.refl _)

instance : ListFrame Asks where
  custody _ _ := asks_of_device rfl rfl (Evolution.refl _)
  pool _ _ := asks_of_device rfl rfl (Evolution.refl _)
  polled fence := asks_of_device rfl rfl (Platform.asks_polled _ _ fence)

theorem Fit.wp_onPlatform (fit : Fit s) {a : Action Platform α}
    (asks : a.wp (fun _ q => s.platform.Asks q) (fun _ q => s.platform.Asks q) s.platform) :
    (Live.onPlatform a).wp (fun _ t => Fit t ∧ s.platform.Asks t.platform)
      (fun _ t => Fit t ∧ s.platform.Asks t.platform) s :=
  (Live.wp_onPlatform a).2 (asks.mono (fun _ _ asks => ⟨fit.lasts asks.lasts, asks⟩)
    fun _ _ asks => ⟨fit.lasts asks.lasts, asks⟩)

/-! ## Bytes of an allocation -/

/-- What lies in an allocation is looked up and used, or the call is refused. -/
theorem wp_inRange {pointer : Pointer} {size : UInt64} {f : Buffer × Nat → Action (Live Gpu) α}
    {Q : α → Live Gpu → Prop} {E : Fault → Live Gpu → Prop}
    (found : ∀ a, s.device.buffers.get? pointer.allocId = some a →
      pointer.offset.toNat + resolveSize pointer.offset size a.size ≤ a.size →
        (f (a.buffer, resolveSize pointer.offset size a.size)).wp Q E s)
    (refused : ∀ e, e.ofWindow = false → E e s) : (checkedRange pointer size >>= f).wp Q E s := by
  simp only [checkedRange, resolve, checkLocal, allocation, wp_bind, Live.wp_self, wp_require,
    wp_orRefuse, wp_pure, decide_eq_true_eq]
  refine ⟨fun _ => ⟨fun a held => ⟨fun inside => ?_, fun _ => ?_⟩, fun _ => ?_⟩, fun _ => ?_⟩
  · exact found a held inside
  · exact refused _ rfl
  · exact refused _ rfl
  · exact refused _ rfl

theorem asks_readRange (range : Range) : (readRange range).Evolves Asks := by
  refine Evolves.given fun s fit => wp_inRange (fun a held _ => ?_) fun _ _ => ?_
  · exact fit.wp_onPlatform (Platform.asks_readBuffer (fit.backed held).roomy.known _ _)
  · exact ⟨fit, Evolution.refl _⟩

/-- What is read is shorter than the longest word. -/
theorem clear_readRange (fit : Fit s) (range : Range) :
    (readRange range).wp (fun data _ => data.size < maxWord) (fun e _ => e.ofWindow = false)
      s := by
  refine wp_inRange (fun a held inside => ?_) fun _ refused => refused
  have backed := fit.backed held
  have clear := Platform.clear_readBuffer backed.roomy (Nat.le_trans inside backed.room)
  rw [Live.wp_onPlatform]
  refine ((Platform.wp_readBuffer backed.roomy.known _ _).and clear).mono ?_ fun _ _ => And.right
  rintro data q ⟨⟨_, size⟩, _⟩
  have room := backed.room
  have small := backed.roomy.small
  simp only [copyAlignment] at small
  omega

theorem asks_writeRange (dst : Pointer) (data : Storage) : (writeRange dst data).Evolves Asks := by
  refine Evolves.given fun s fit => wp_inRange (fun a held _ => ?_) fun _ _ => ?_
  · exact fit.wp_onPlatform (Platform.asks_writeBuffer (fit.backed held).roomy.known _ _)
  · exact ⟨fit, Evolution.refl _⟩

/-- Data that is shorter than the longest word is not taken for the rest of an allocation. -/
theorem resolveSize_data {offset : UInt64} {length total : Nat} (short : length < maxWord) :
    resolveSize offset (UInt64.ofNat length) total = length := by
  have word : (UInt64.ofNat length).toNat = length :=
    UInt64.toNat_ofNat_of_lt (Nat.lt_of_lt_of_le short (by decide))
  rw [resolveSize_of_ne, word]
  intro whole
  rw [whole] at word
  exact absurd short (by rw [← word]; decide)

theorem clear_writeRange (fit : Fit s) (dst : Pointer) {data : Storage}
    (short : data.size < maxWord) : (writeRange dst data).Clear s := by
  refine wp_inRange (fun a held inside => ?_) fun _ refused => refused
  rw [resolveSize_data short] at inside
  have backed := fit.backed held
  rw [Live.wp_onPlatform]
  exact Platform.clear_writeBuffer backed.roomy (Nat.le_trans inside backed.room)

/-! ## Mappings -/

/-- An allocation may be mapped otherwise, as long as what is mapped lies in it. -/
theorem Fit.remapped (h : Fit s) (held : s.device.buffers.get? id = some a)
    {mapping : Option HostMapping}
    (inside : ∀ m, mapping = some m → m.offset + m.shadow.size ≤ a.size) :
    Fit { s with device.buffers := s.device.buffers.insert id { a with mapping } } := by
  refine ⟨h.limit, fun {id' a'} held' => ?_⟩
  rcases SortedMap.get?_of_insert held' with ⟨-, rfl⟩ | before
  · exact ⟨(h.backed held).roomy, (h.backed held).room, inside⟩
  · exact h.backed before

theorem asks_mapRange (pointer : Pointer) (size : UInt64) :
    (mapRange pointer size).Evolves Asks := by
  refine Evolves.given fun s fit => wp_inRange (fun a held inside => ?_) fun _ _ => ?_
  · have known := (fit.backed held).roomy.known
    have same : Fit s ∧ s.platform.Asks s.platform := ⟨fit, Evolution.refl _⟩
    simp only [allocation, held, wp_bind, Live.wp_self, wp_orRefuse_some, wp_require,
      Live.wp_onPlatform, putBuffer, Live.wp_update, wp_pure]
    refine ⟨fun _ => ⟨fun _ => ?_, fun _ => same⟩, fun _ => same⟩
    refine ((Platform.asks_readBuffer known _ _).and (Platform.wp_readBuffer known _ _)).mono ?_ ?_
    · rintro shadow p ⟨asks, _, size⟩
      refine ⟨(fit.lasts asks.lasts).remapped held fun m mapped => ?_, asks⟩
      obtain rfl := Option.some.inj mapped
      rw [size]
      exact inside
    · rintro _ p ⟨asks, _⟩
      exact ⟨fit.lasts asks.lasts, asks⟩
  · exact ⟨fit, Evolution.refl _⟩

theorem clear_mapRange (fit : Fit s) (pointer : Pointer) (size : UInt64) :
    (mapRange pointer size).Clear s := by
  refine wp_inRange (fun a held inside => ?_) fun _ refused => refused
  have backed := fit.backed held
  have clear := Platform.clear_readBuffer backed.roomy (Nat.le_trans inside backed.room)
  simp only [allocation, held, wp_bind, Live.wp_self, wp_orRefuse_some, wp_require,
    Live.wp_onPlatform, putBuffer, Live.wp_update, wp_pure]
  exact ⟨fun _ => ⟨fun _ => clear, fun _ => rfl⟩, fun _ => rfl⟩

/-- A mapping that there is is taken out and, where the host may write, copied back. -/
theorem wp_unmapping {alloc : Allocation} {Q : Unit → Live Gpu → Prop} {E : Fault → Live Gpu → Prop}
    (mapped : ∀ a m, s.device.buffers.get? alloc.id = some a → a.mapping = some m →
      (Live.onPlatform (Platform.writeBuffer a.buffer m.offset m.shadow)).wp Q E
          { s with device.buffers :=
              s.device.buffers.insert alloc.id { a with mapping := none } } ∧
        Q () { s with device.buffers :=
            s.device.buffers.insert alloc.id { a with mapping := none } })
    (refused : ∀ e, e.ofWindow = false → E e s) : (unmap alloc).wp Q E s := by
  simp only [unmap, resolve, checkLocal, allocation, wp_bind, Live.wp_self, wp_require,
    wp_orRefuse, putBuffer, Live.wp_update]
  refine ⟨fun _ => ⟨fun a held => ⟨fun m mapping => ?_, fun _ => refused _ rfl⟩,
    fun _ => refused _ rfl⟩, fun _ => refused _ rfl⟩
  obtain ⟨copied, kept⟩ := mapped a m held mapping
  exact (wp_ite _ _).2 ⟨fun _ => copied, fun _ => kept⟩

theorem asks_unmap (alloc : Allocation) : (unmap alloc).Evolves Asks := by
  refine Evolves.given fun s fit => wp_unmapping (fun a m held mapped => ?_) fun _ _ => ?_
  · have known := (fit.backed held).roomy.known
    have taken : Fit { s with device.buffers :=
        s.device.buffers.insert alloc.id { a with mapping := none } } :=
      fit.remapped held nofun
    exact ⟨taken.wp_onPlatform (Platform.asks_writeBuffer known _ _), taken, Evolution.refl _⟩
  · exact ⟨fit, Evolution.refl _⟩

theorem clear_unmap (fit : Fit s) (alloc : Allocation) : (unmap alloc).Clear s := by
  refine wp_unmapping (fun a m held mapped => ⟨?_, trivial⟩) fun _ refused => refused
  have backed := fit.backed held
  rw [Live.wp_onPlatform]
  exact Platform.clear_writeBuffer backed.roomy (Nat.le_trans (backed.mapped m mapped) backed.room)

/-- The host writes no further than the region goes that was mapped for it. -/
theorem asks_writeRegion (s : Live Gpu) {region : MappedRegion} {offset : Nat} {data : Storage}
    (mapped : s.device.maps region = true) (inside : offset + data.size ≤ region.length) :
    Asks s { s with device := s.device.writeRegion region offset data } := by
  intro fit
  unfold maps at mapped
  unfold writeRegion
  cases held : s.device.buffers.get? region.allocId with
  | none => exact ⟨fit, Evolution.refl _⟩
  | some a =>
    refine ⟨fit.remapped held fun m edited => ?_, Evolution.refl _⟩
    obtain ⟨m, mapping, rfl⟩ := Option.map_eq_some_iff.1 edited
    simp only [held, Option.bind_some, mapping, Bool.and_eq_true, decide_eq_true_eq] at mapped
    have fits : offset + data.size ≤ m.shadow.size := by omega
    rw [Storage.size_splice fits]
    exact (fit.backed held).mapped m mapping

/-! ## Allocations -/

/-- The native buffer of a request is as long or longer, aligned, and not the longest of all. -/
theorem nativeSize_fits {size : UInt64} {n : Nat} (fits : nativeSize size = .ok n) :
    size.toNat ≤ n ∧ isAligned n = true ∧ n + copyAlignment ≤ maxWord + 1 := by
  obtain ⟨-, -, aligned, word⟩ := alignUp_eq_ok fits
  refine ⟨le_nativeSize fits, aligned, ?_⟩
  have groups : n % 4 = 0 := of_decide_eq_true aligned
  simp only [copyAlignment, maxWord, UInt64.size] at *
  omega

theorem Allocated.asks {params : AllocParams} {alloc : Allocation}
    (h : Allocated params alloc s t) (limits : t.device.limits = s.device.limits)
    (asked : t.platform.asked = s.platform.asked) : Asks s t := by
  intro fit
  obtain ⟨n, native, within, contents⟩ := h.contents
  obtain ⟨buffer, new, connection, buffers⟩ := h.buffers
  obtain ⟨room, aligned, small⟩ := nativeSize_fits native
  have lasts : s.platform.contents.Lasts t.platform.contents :=
    Contents.lasts_prefix (contents ▸ List.prefix_append _ _)
  have size : t.platform.bufferSize buffer = n := by
    rw [Platform.bufferSize, contents, Contents.of_append_new new, Storage.size_zeros]
  refine ⟨⟨?_, fun {id a} held => ?_⟩, .of_lasts lasts asked⟩
  · rw [limits]
    exact fit.limit
  · rw [buffers] at held
    rcases SortedMap.get?_of_insert held with ⟨-, rfl⟩ | before
    · refine ⟨⟨?_, size ▸ aligned, ?_, size ▸ small⟩, size ▸ room, nofun⟩
      · rw [new, contents]
        simp
      · rw [size, connection]
        exact within
    · exact (fit.lasts lasts).backed before

theorem asks_allocate (params : AllocParams) : (allocate params).Evolves Asks := by
  -- What else the device is and what the queue was asked for are as before.
  have others : (allocate params).Evolves fun s t =>
      t.device.limits = s.device.limits ∧ t.platform.asked = s.platform.asked := by
    intro s
    have made (purpose : BufferPurpose) (n : Nat) :=
      (Platform.makes_makeBuffer s.device.connection purpose n s.platform).asked
    simp only [allocate, registeredId, takeAllocId, putBuffer, exhausted, wp_bind, Live.wp_self,
      wp_require, wp_pure, wp_ite, wp_throw, wp_check, wp_attempt, Platform.wp_createBuffer,
      Live.wp_update]
    simp [made, limits]
  intro s
  refine ((wp_allocate params s).and (others s)).mono ?_ ?_
  · rintro alloc t ⟨allocated, limits, asked⟩
    exact allocated.asks limits asked
  · rintro e t ⟨still, limits, asked⟩
    refine asks_of_device still.buffers limits (.of_lasts ?_ asked)
    exact ⟨still.platform.grows, fun b known => congrArg Storage.size (still.platform.old b known)⟩

/-- A counter of ids leaves its word only at the very end. -/
theorem takeNumber_eq_error {counter : UInt32} {e : Fault}
    (failed : takeNumber counter = .error e) : counter = 0xFFFFFFFF := by
  unfold takeNumber at failed
  split at failed
  · assumption
  · cases failed

/-- Within the limit the native size can be told. All that can leave a word is the count of ids. -/
theorem clear_allocate (fit : Fit s) (params : AllocParams) :
    (allocate params).wp (fun _ _ => True)
      (fun e _ => e.ofWindow = true → s.device.nextAlloc = 0xFFFFFFFF) s := by
  simp only [allocate, registeredId, takeAllocId, putBuffer, exhausted, wp_bind, Live.wp_self,
    wp_require, wp_pure]
  refine ⟨fun _ => (wp_ite _ _).2 ⟨fun _ => Fault.elim_ofWindow rfl, fun small => ?_⟩,
    fun _ => Fault.elim_ofWindow rfl⟩
  simp only [wp_bind, wp_check, wp_attempt, Platform.wp_createBuffer, Live.wp_self,
    Live.wp_update, wp_pure, implies_true, true_and]
  refine ⟨fun n _ => ⟨fun _ e failed _ => takeNumber_eq_error failed,
    fun _ => Fault.elim_ofWindow rfl⟩, fun e failed => ?_⟩
  rw [nativeSize_of_le fit.limit (UInt64.not_lt.1 small)] at failed
  cases failed

theorem asks_deallocate (alloc : Allocation) : (deallocate alloc).Evolves Asks := by
  intro s
  refine (wp_deallocate alloc s).mono ?_ ?_
  · rintro _ _ ⟨-, -, rfl⟩ fit
    refine ⟨⟨fit.limit, fun held => ?_⟩, Evolution.refl _⟩
    exact fit.backed (SortedMap.get?_of_erase held)
  · rintro _ _ rfl
    exact Evolution.refl _

theorem clear_deallocate (alloc : Allocation) (s : Live Gpu) : (deallocate alloc).Clear s := by
  simp only [Clear, deallocate, checkLocal, allocation, wp_bind, wp_discard, Live.wp_self,
    wp_require, wp_orRefuse, Live.wp_update]
  exact ⟨fun _ => ⟨fun _ _ => trivial, fun _ => rfl⟩, fun _ => rfl⟩

/-! ## Copies within a device -/

theorem asks_submit (label : EncoderLabel) {commands : List Command}
    (fits : ∀ command ∈ commands, command.Fits s.platform.contents) :
    Asks s { s with platform := (s.platform.submit label commands).2 } :=
  asks_of_device rfl rfl (Platform.asks_submit label fits)

/-- A copy is native only if it begins and ends on whole groups of bytes. -/
theorem asks_copyWithin (dst : Pointer) (src : Range) : (copyWithin dst src).Evolves Asks := by
  refine (evolves_checkLocal _).bind fun _ => evolves_self.bind fun g => .ite (.pure _) ?_
  refine Evolves.given fun s fit => ?_
  have same : Fit s ∧ s.platform.Asks s.platform := ⟨fit, Evolution.refl _⟩
  refine wp_inRange (fun a held inside => ?_) fun _ _ => same
  refine wp_inRange (fun b held' fits => ?_) fun _ _ => same
  refine (wp_ite _ _).2 ⟨fun aligned => ?_, fun _ => same⟩
  simp only [Bool.and_eq_true] at aligned
  obtain ⟨⟨begins, begins'⟩, sized⟩ := aligned
  have small := Nat.lt_of_le_of_lt (Nat.le_of_add_left_le inside) a.size_lt
  rw [resolveSize_ofNat small sized] at fits
  rw [wp_bind, wp_discard, Live.wp_request, wp_pure]
  refine asks_submit .transfer (fun command member => ?_) fit
  obtain rfl := List.mem_singleton.1 member
  exact ⟨(fit.backed held).spans begins sized inside, (fit.backed held').spans begins' sized fits⟩

theorem clear_copyWithin (dst : Pointer) (src : Range) (s : Live Gpu) :
    (copyWithin dst src).Clear s := by
  simp only [Clear, copyWithin, checkLocal, wp_bind, Live.wp_self, wp_require]
  refine ⟨fun _ => (wp_ite _ _).2 ⟨fun _ => trivial, fun _ => ?_⟩, fun _ => rfl⟩
  refine wp_inRange (fun a _ _ => wp_inRange (fun b _ _ => ?_) ?_) ?_
  · exact (wp_ite _ _).2 ⟨fun _ => trivial, fun _ => trivial⟩
  · exact fun _ refused => refused
  · exact fun _ refused => refused

end Gpu

/-! ## Recording -/

/-- What was recorded to move bytes fits the buffers. -/
def CommandList.Fits (c : Contents) (l : CommandList) : Prop :=
  ∀ command ∈ l.moved, command.Fits c

namespace CommandList.Fits

variable {c c' : Contents} {l : CommandList}

theorem lasts (h : l.Fits c) (lasts : c.Lasts c') : l.Fits c' :=
  fun command member => (h command member).lasts lasts

/-- All commands that a list hands out fit. -/
theorem encoded (h : l.Fits c) : ∀ command ∈ encode l.closed, command.Fits c := by
  apply Command.fits_of_moves
  rw [l.encode_moved]
  exact h

theorem of_empty (empty : l.commands = #[]) : l.Fits c := by
  intro command member
  simp [moved, empty] at member

end CommandList.Fits

namespace Recording

/-- The device and the list at hand fit. -/
structure Fit (r : Recording) : Prop where
  device : Gpu.Fit r.live
  list : r.list.Fits r.live.platform.contents

def Asks (r t : Recording) : Prop := r.Fit → t.Fit ∧ r.live.platform.Asks t.live.platform

instance : Evolution Asks where
  refl _ fit := ⟨fit, Evolution.refl _⟩
  trans := Platform.Asks.carry

/-- What the device does, whatever is recorded. -/
def DeviceAsks (r t : Recording) : Prop := Gpu.Asks r.live t.live

instance : Frame DeviceAsks := inferInstanceAs (Frame (OfLive Gpu.Asks))

instance : Gpu.Growing (OnLive DeviceAsks) :=
  inferInstanceAs (Gpu.Growing (OnLive (OfLive Gpu.Asks)))

variable {r t : Recording}

/-- A list to which nothing was added that moves bytes fits as before. -/
theorem DeviceAsks.asks (h : DeviceAsks r t) (moved : t.list.moved = r.list.moved) : Asks r t := by
  intro fit
  obtain ⟨device, asks⟩ := h fit.device
  refine ⟨⟨device, ?_⟩, asks⟩
  unfold CommandList.Fits
  rw [moved]
  exact fit.list.lasts asks.lasts

/-- What is added fits the buffers that there are by then. -/
theorem DeviceAsks.adding (h : DeviceAsks r t) {added : List Command}
    (moved : t.list.moved = r.list.moved ++ added)
    (fits : Gpu.Fit r.live → ∀ command ∈ added, command.Fits t.live.platform.contents) :
    Asks r t := by
  intro fit
  obtain ⟨device, asks⟩ := h fit.device
  refine ⟨⟨device, fun command member => ?_⟩, asks⟩
  rw [moved] at member
  rcases List.mem_append.1 member with before | new
  · exact (fit.list command before).lasts asks.lasts
  · exact fits fit.device command new

theorem fits_copy (dst src : Pointer) (size : UInt64) (r : Recording) :
    (copy dst src size).wp (fun _ t => Asks r t) (fun _ _ => True) r := by
  have live : (copy dst src size).Evolves DeviceAsks := framed_copy dst src size
  refine ((live r).and (wp_copy dst src size r)).ok ?_
  rintro _ t ⟨asks, a, b, held, held', inside, fits, ⟨⟨begins, begins'⟩, sized⟩, moved⟩ fit
  refine asks.adding moved (fun fit' command member => ?_) fit
  obtain rfl := List.mem_singleton.1 member
  have lasts := (asks fit').2.lasts
  exact ⟨((fit'.backed held).spans begins sized inside).lasts lasts,
    ((fit'.backed held').spans begins' sized fits).lasts lasts⟩

theorem fits_fill (pointer : Pointer) (size : UInt64) (word : UInt32) (r : Recording) :
    (fill pointer size word).wp (fun _ t => Asks r t) (fun _ _ => True) r := by
  have live : (fill pointer size word).Evolves DeviceAsks := framed_fill pointer size word
  refine ((live r).and (wp_fill pointer size word r)).ok ?_
  rintro _ t ⟨asks, a, held, inside, ⟨begins, sized⟩, fills⟩ fit
  have spans : t.live.platform.contents.Spans a.buffer pointer.offset.toNat
      (resolveSize pointer.offset size a.size) :=
    ((fit.device.backed held).spans begins sized inside).lasts (asks fit.device).2.lasts
  cases fills with
  | nothing _ moved => exact asks.asks moved fit
  | clear _ moved =>
    refine asks.adding moved (fun _ command member => ?_) fit
    obtain rfl := List.mem_singleton.1 member
    exact spans
  | pattern pattern newest contents moved =>
    refine asks.adding moved (fun _ command member => ?_) fit
    obtain rfl := List.mem_singleton.1 member
    -- The pattern is as long as the fill, in words.
    have words : (Storage.ofWords (resolveSize pointer.offset size a.size / 4) fun _ => word).size =
        resolveSize pointer.offset size a.size := by
      have groups : resolveSize pointer.offset size a.size % 4 = 0 := of_decide_eq_true sized
      rw [← Storage.length_toBytes, Bytes.toBytes_ofWords, Bytes.length_repeated]
      omega
    refine ⟨⟨?_, rfl, sized, ?_⟩, spans⟩
    · rw [newest, contents]
      simp
    · rw [contents, Contents.of_append_new newest, words]
      omega

end Recording

/-- Whatever is recorded fits, and fits until it is queued. -/
theorem RecordingCall.fits (call : RecordingCall) : call.run.Evolves Recording.Asks := by
  intro r
  have live : call.run.Evolves Recording.DeviceAsks := call.framed
  cases defers : call.defers with
  | false =>
    refine ((live r).and (call.adds r)).mono ?_ ?_
    all_goals
      rintro _ t ⟨asks, adds⟩
      exact asks.asks (moved_of_not_defers defers adds)
  | true =>
    -- Copies and fills that fail leave the list as it was.
    have spares : call.run.Spares Recording.SameList := by
      refine RecordingCall.spares fun binder => ?_
      rintro rfl
      cases defers
    have recorded : call.run.wp (fun _ t => Recording.Asks r t) (fun _ _ => True) r := by
      cases call with
      | copy dst src size => exact Recording.fits_copy dst src size r
      | fill pointer size word => exact Recording.fits_fill pointer size word r
      | _ => cases defers
    refine (recorded.and ((live r).and (spares r))).mono (fun _ _ => And.left) ?_
    rintro e t ⟨_, asks, same⟩
    exact asks.asks (congrArg CommandList.moved same)

/-! ## Queueing -/

theorem Recording.asks_afterQueue {r : Recording} (fit : r.Fit) :
    r.live.platform.Asks r.afterQueue := Platform.asks_submit _ fit.list.encoded

theorem SubmitEnd.asks {r t : Recording} {wait : Bool} {result : Except Fault Unit}
    (ended : SubmitEnd r wait result t) : Recording.Asks r t := by
  intro fit
  have queued := Recording.asks_afterQueue fit
  have waited : r.live.platform.Asks r.afterWait :=
    Evolution.trans queued (Platform.asks_polled _ _ _)
  have gone (c : Contents) : r.list.finished.Fits c := .of_empty rfl
  have left {p : Platform} {g : Gpu} (buffers : g.buffers = r.live.device.buffers)
      (limits : g.limits = r.live.device.limits) (asks : r.live.platform.Asks p) :
      Recording.Fit ⟨⟨p, g⟩, r.list.finished⟩ ∧ r.live.platform.Asks p :=
    ⟨⟨(Gpu.asks_of_device (t := ⟨p, g⟩) buffers limits asks fit.device).1, gone _⟩, asks⟩
  cases ended with
  | refused => exact ⟨fit, Evolution.refl _⟩
  | waited | waitFailed => exact left rfl rfl waited
  | marked | twice => exact left rfl rfl queued

theorem Recording.asks_queue (wait : Bool) : (submit wait).Evolves Asks := fun r =>
  (submit_ends r wait).mono (fun _ _ ended => ended.asks) fun _ _ ended => ended.asks

theorem Recording.clear_submit (wait : Bool) (r : Recording) : (submit wait).Clear r := by
  refine (submit_ends r wait).mono (fun _ _ _ => trivial) ?_
  intro e t ended
  cases ended <;> rfl

theorem Recording.asks_finalize : finalize.Evolves Asks := by
  intro r
  rw [wp_finalize]
  refine ⟨fun _ => Evolution.refl r, fun _ fit => ⟨⟨fit.device, ?_⟩, Evolution.refl _⟩⟩
  exact .of_empty rfl

namespace Gpu

theorem asks_usingList {α : Type} {action : Action Recording α}
    (asks : action.Evolves Recording.Asks) {list : CommandList} {s : Live Gpu}
    (fits : Fit s → list.Fits s.platform.contents) :
    (usingList list action).wp (fun _ t => Asks s t) (fun _ t => Asks s t) s := by
  have dropped (r : Recording) (step : Recording.Asks ⟨s, list⟩ r) : Asks s (afterDrop r) :=
    Platform.Asks.carry (fun fit => step ⟨fit, fits fit⟩) fun fit =>
      framed_afterDrop (S := Asks) r fit.device
  exact wp_usingList.2 ((asks ⟨s, list⟩).mono (fun _ => dropped) fun _ => dropped)

theorem asks_kernel (kernel : Kernel) (binder : Binder) :
    (kernel.queue binder).Evolves Recording.Asks := by
  refine (RecordingCall.fits (.bindPipeline _)).bind fun _ => ?_
  refine (RecordingCall.fits (.bindResources _)).bind fun _ => ?_
  exact (RecordingCall.fits (.dispatch _ _ _)).bind fun _ => Recording.asks_queue false

theorem asks_launchLocal (stream number : UInt32) (mapping : Mapping) :
    (launchLocal stream number mapping).Evolves Asks := by
  refine (evolves_prepareLaunch _ _ _).bind fun (kernel, binder) => ?_
  intro s
  rw [wp_bind]
  refine (wp_newList_framed (S := Asks) s).mono ?_ fun _ _ asks => asks
  rintro _ t ⟨⟨buffer, rfl⟩, made⟩
  have queued := asks_usingList (s := t) (asks_kernel kernel binder) fun _ =>
    CommandList.Fits.of_empty (l := { buffer }) rfl
  exact queued.mono (fun _ _ => Evolution.trans made) fun _ _ => Evolution.trans made

end Gpu

end DeviceLayer
