import DeviceLayer.Proofs.Transfers

/-!
# Requests for ranges

Host memory and a graphics processor are asked for ranges in the same words, and each has bounds
checks of its own. As long as polls succeed they come to the same, with one exception: host memory
does not read the size that stands for the rest.

* `Bytes.requested?` — what a request means, by the bytes of the allocation alone.
* `World.mapped`, `World.read` — what the host gets to see of a range.
* `Host.yields_mapRange`, …, `Gpu.yields_readRange` — what either kind of device makes of a request.
* `Fleet.ranges_agree` — where the two agree.
-/

namespace DeviceLayer

open DeviceLayer.Action

/-- The bytes that a request for `size` bytes at `offset` means, if all of them are there. -/
def Bytes.requested? (held : Bytes) (offset size : UInt64) : Option Bytes :=
  let n := resolveSize offset size held.length
  if offset.toNat + n ≤ held.length then some (held.slice offset.toNat n) else none

/-- A request comes to the wanted bytes. If there are none it is against the rules. -/
def Yields (wanted : Option Bytes) (result : Except Fault Bytes) : Prop :=
  match wanted with
  | some bytes => result = .ok bytes
  | none => ∃ cause, result = .error (.device (.precondition cause))

theorem Yields.toOption_eq {wanted : Option Bytes} {result : Except Fault Bytes}
    (yields : Yields wanted result) : result.toOption = wanted := by
  cases wanted with
  | some bytes =>
    obtain rfl : result = .ok bytes := yields
    rfl
  | none =>
    obtain ⟨cause, rfl⟩ := yields
    rfl

/-- The rest of an allocation is there for any offset that is not behind its end. -/
theorem Bytes.requested?_wholeSize (held : Bytes) (offset : UInt64) :
    held.requested? offset wholeSize =
      if offset.toNat ≤ held.length then some (held.drop offset.toNat) else none := by
  simp only [requested?, resolveSize_wholeSize]
  by_cases within : offset.toNat ≤ held.length
  · rw [if_pos (by omega), if_pos within, slice, List.take_of_length_le]
    exact Nat.le_of_eq List.length_drop
  · rw [if_neg (by omega), if_neg within]

theorem yields_of_inside {held : Bytes} {offset size : UInt64}
    (inside : offset.toNat + resolveSize offset size held.length ≤ held.length) :
    Yields (held.requested? offset size)
      (.ok (held.slice offset.toNat (resolveSize offset size held.length))) := by
  rw [Bytes.requested?, if_pos inside]
  exact rfl

theorem yields_of_outside {held : Bytes} {offset size : UInt64}
    (outside : ¬offset.toNat + resolveSize offset size held.length ≤ held.length)
    (cause : Precondition) :
    Yields (held.requested? offset size) (.error (.device (.precondition cause))) := by
  rw [Bytes.requested?, if_neg outside]
  exact ⟨cause, rfl⟩

/-- The device has the allocation and it is not mapped, but could be. These are its bytes. -/
def Device.Offers (c : Contents) (alloc : Allocation) (held : Bytes) : Device → Prop
  | .host h => alloc.device = h.id ∧ ∃ b, h.blocks.get? alloc.id = some b ∧
      b.mapped = false ∧ b.bytes.toBytes = held
  | .gpu g => alloc.device = g.id ∧ ∃ a, g.buffers.get? alloc.id = some a ∧
      a.mapping = none ∧ a.params.isHostVisible = true ∧ a.bytes c = held
  | .remote _ => False

/-! ## Host memory -/

namespace Host

variable {α : Type} {h : Host} {b : HostBlock} {c : Contents} {alloc : Allocation} {held : Bytes}

/-- The device goes on with the block behind a handle of its own. -/
theorem wp_own_block {f : HostBlock → Action Host α} {Q : α → Host → Prop} {E : Fault → Host → Prop}
    (own : alloc.device = h.id) (found : h.blocks.get? alloc.id = some b) :
    (block alloc >>= f).wp Q E h ↔ (f b).wp Q E h := by
  simp [block, checkOwner, own, found]

theorem wp_checkSpan {f : Unit → Action Host α} {Q : α → Host → Prop} {E : Fault → Host → Prop}
    {offset length total : Nat} :
    (checked (checkSpan offset length total) >>= f).wp Q E h ↔
      if offset + length ≤ total then (f ()).wp Q E h
      else E (.device (.precondition (.spanExceeds offset length total))) h := by
  rw [checkSpan, wp_bind, wp_checked]
  split
  · exact ⟨fun goesOn => goesOn.1 () rfl, fun goesOn => ⟨fun _ _ => goesOn, nofun⟩⟩
  · simp

theorem yields_mapRange (offers : (Device.host h).Offers c alloc held) (offset size : UInt64) :
    (mapRange (alloc.pointer offset) size).wp
      (fun region t => Yields (held.requested? offset size) (.ok (t.readRegion region).toBytes))
      (fun e _ => Yields (held.requested? offset size) (.error e)) h := by
  obtain ⟨own, b, found, unmapped, rfl⟩ := offers
  have length := Storage.length_toBytes b.bytes
  rw [mapRange]
  refine (wp_own_block own found).2 ?_
  simp only [unmapped, wp_bind, wp_require, Bool.not_false, true_imp_iff, reduceCtorEq,
    false_imp_iff, and_true]
  rw [← wp_bind, wp_checkSpan]
  split
  · rename_i inside
    have yields := yields_of_inside (length ▸ inside)
    simp only [putBlock, wp_modify, wp_pure, readRegion, Pointer.allocation, Allocation.pointer,
      SortedMap.get?_insert_self, Storage.toBytes_slice]
    exact length ▸ yields
  · rename_i outside
    exact yields_of_outside (length ▸ outside) _

/-- Bytes are read where they are asked for by their number. No block is as long as the size that
stands for the rest, so that size is refused like any other that is too long. -/
theorem yields_readRange (sized : h.Sized) (offers : (Device.host h).Offers c alloc held)
    (offset size : UInt64) :
    let wanted := if size = wholeSize then none else held.requested? offset size
    (readRange ⟨alloc.pointer offset, size⟩).wp (fun data _ => Yields wanted (.ok data.toBytes))
      (fun e _ => Yields wanted (.error e)) h := by
  intro wanted
  obtain ⟨own, b, found, -, rfl⟩ := offers
  have length := Storage.length_toBytes b.bytes
  rw [readRange]
  refine (wp_own_block own found).2 ?_
  rw [wp_checkSpan]
  simp only [wp_pure, Storage.toBytes_slice]
  by_cases whole : size = wholeSize
  · have small := sized.each found
    have longest : maxObject < wholeSize.toNat := by decide
    rw [if_neg (by rw [whole]; omega), show wanted = none from if_pos whole]
    exact ⟨_, rfl⟩
  · have same : wanted = b.bytes.toBytes.requested? offset size := if_neg whole
    have resolved : size.toNat = resolveSize offset size b.bytes.toBytes.length :=
      (resolveSize_of_ne whole).symm
    rw [same, resolved, ← length]
    split
    · rename_i inside
      exact yields_of_inside inside
    · rename_i outside
      exact yields_of_outside outside _

end Host

/-! ## Graphics processors -/

namespace Gpu

variable {α : Type} {s : Live Gpu} {a : BufferAllocation} {alloc : Allocation} {held : Bytes}

/-- The device goes on with a range of an allocation of its own if all of it is there. -/
theorem wp_own_range {f : Buffer × Nat → Action (Live Gpu) α} {Q : α → Live Gpu → Prop}
    {E : Fault → Live Gpu → Prop} (own : alloc.device = s.device.id)
    (found : s.device.buffers.get? alloc.id = some a) (offset size : UInt64) :
    (checkedRange (alloc.pointer offset) size >>= f).wp Q E s ↔
      let n := resolveSize offset size a.size
      if offset.toNat + n ≤ a.size then (f (a.buffer, n)).wp Q E s
      else E (.device (.precondition (.rangeExceeds n offset.toNat a.size))) s := by
  simp only [checkedRange, resolve, checkLocal, allocation, Allocation.pointer, wp_bind,
    Live.wp_self, wp_require, own, found, wp_orRefuse_some, wp_pure, decide_eq_true_eq,
    decide_eq_false_iff_not, not_true_eq_false, true_imp_iff, false_imp_iff, and_true]
  split <;> simp [*]

/-- Copied back is what was asked for. -/
theorem yields_readBuffer (fit : Fit s) (answers : s.platform.Answers)
    (found : s.device.buffers.get? alloc.id = some a) {offset size : UInt64}
    (inside : offset.toNat + resolveSize offset size a.size ≤ a.size) :
    let n := resolveSize offset size a.size
    (Live.onPlatform (Platform.readBuffer a.buffer offset.toNat n)).wp
      (fun data _ => Yields ((a.bytes s.platform.contents).requested? offset size)
        (.ok data.toBytes))
      (fun _ _ => False) s := by
  intro n
  have length := fit.length_bytes found
  have backed := fit.backed found
  have yields := yields_of_inside (length ▸ inside)
  rw [Live.wp_onPlatform]
  refine (Platform.wp_readBuffer_of_le answers backed.roomy
    (Nat.le_trans inside backed.room)).mono ?_ fun _ _ => False.elim
  rintro data _ ⟨copied, -⟩
  rw [length, BufferAllocation.bytes, Bytes.slice_take inside, ← copied] at yields
  exact yields

theorem yields_mapRange (fit : Fit s) (answers : s.platform.Answers)
    (offers : (Device.gpu s.device).Offers s.platform.contents alloc held)
    (offset size : UInt64) :
    (mapRange (alloc.pointer offset) size).wp
      (fun region t =>
        Yields (held.requested? offset size) (.ok (t.device.readRegion region).toBytes))
      (fun e _ => Yields (held.requested? offset size) (.error e)) s := by
  obtain ⟨own, a, found, unmapped, visible, rfl⟩ := offers
  have length := fit.length_bytes found
  rw [mapRange]
  refine (wp_own_range own found offset size).2 ?_
  dsimp only
  split
  · rename_i inside
    simp only [allocation, Allocation.pointer, wp_bind, Live.wp_self, found, wp_orRefuse_some,
      visible, unmapped, wp_require, true_imp_iff, Option.isNone_none, reduceCtorEq,
      false_imp_iff, and_true, putBuffer, Live.wp_update, wp_pure]
    refine (yields_readBuffer fit answers found inside).mono ?_ fun _ _ => False.elim
    intro shadow t yields
    simpa [readRegion] using yields
  · rename_i outside
    exact yields_of_outside (length ▸ outside) _

theorem yields_readRange (fit : Fit s) (answers : s.platform.Answers)
    (offers : (Device.gpu s.device).Offers s.platform.contents alloc held)
    (offset size : UInt64) :
    (readRange ⟨alloc.pointer offset, size⟩).wp
      (fun data _ => Yields (held.requested? offset size) (.ok data.toBytes))
      (fun e _ => Yields (held.requested? offset size) (.error e)) s := by
  obtain ⟨own, a, found, -, -, rfl⟩ := offers
  rw [readRange]
  refine (wp_own_range own found offset size).2 ?_
  dsimp only
  split
  · rename_i inside
    exact (yields_readBuffer fit answers found inside).mono (fun _ _ yields => yields)
      fun _ _ => False.elim
  · rename_i outside
    exact yields_of_outside (fit.length_bytes found ▸ outside) _

end Gpu

/-! ## Devices of a world -/

namespace World

variable {w : World} {key : DeviceKey} {alloc : Allocation} {held : Bytes}

/-- What the host sees of a range that it maps. -/
def mapped (w : World) (key : DeviceKey) (pointer : Pointer) (size : UInt64) : Except Fault Bytes :=
  let o := (mapRange key pointer size).outcome w
  o.1.map fun region => (o.2.readRegion key region).toBytes

def read (w : World) (key : DeviceKey) (range : Range) : Except Fault Bytes :=
  ((readRange key range).outcome w).1.map Storage.toBytes

theorem yields_mapped {d : Device} (fit : w.Fit) (answers : w.platform.Answers)
    (found : w.devices.get? key = some d) (offers : d.Offers w.platform.contents alloc held)
    (offset size : UInt64) :
    Yields (held.requested? offset size) (w.mapped key (alloc.pointer offset) size) := by
  have own := fit.each found
  refine wp.outcome (a := mapRange key (alloc.pointer offset) size) (P := fun o =>
    Yields _ (o.1.map fun region => (o.2.readRegion key region).toBytes)) ?_
  rw [mapRange, wp_onDevice, found]
  cases d with
  | host h =>
    refine (Host.yields_mapRange offers offset size).mono ?_ fun _ _ refused => refused
    intro region t yields
    simpa [readRegion, get?_put, Except.map] using yields
  | gpu g =>
    refine (Gpu.yields_mapRange own answers offers offset size).mono ?_ fun _ _ refused => refused
    intro region t yields
    simpa [readRegion, get?_put, Except.map] using yields
  | remote r => exact offers.elim

theorem yields_read_of_gpu {g : Gpu} (fit : w.Fit) (answers : w.platform.Answers)
    (found : w.devices.get? key = some (.gpu g))
    (offers : (Device.gpu g).Offers w.platform.contents alloc held) (offset size : UInt64) :
    Yields (held.requested? offset size) (w.read key ⟨alloc.pointer offset, size⟩) := by
  have own : Gpu.Fit ⟨w.platform, g⟩ := fit.each found
  refine wp.outcome (a := readRange key ⟨alloc.pointer offset, size⟩) (P := fun o =>
    Yields _ (o.1.map Storage.toBytes)) ?_
  rw [readRange, wp_onDevice, found]
  exact (Gpu.yields_readRange own answers offers offset size).mono (fun _ _ given => given)
    fun _ _ refused => refused

theorem yields_read_of_host {h : Host} (fit : w.Fit)
    (found : w.devices.get? key = some (.host h))
    (offers : (Device.host h).Offers w.platform.contents alloc held) (offset size : UInt64) :
    Yields (if size = wholeSize then none else held.requested? offset size)
      (w.read key ⟨alloc.pointer offset, size⟩) := by
  have own : h.Sized := fit.each found
  refine wp.outcome (a := readRange key ⟨alloc.pointer offset, size⟩) (P := fun o =>
    Yields _ (o.1.map Storage.toBytes)) ?_
  rw [readRange, wp_onDevice, found]
  exact (Host.yields_readRange own offers offset size).mono (fun _ _ given => given)
    fun _ _ refused => refused

end World

namespace Fleet

/-- Wherever a run can lead, as long as the graphics processor answers: host memory and a graphics
processor that hold the same bytes map the same ranges and show the same bytes of them, and so they
do where they are read, as long as the size is a number. Host memory never reads the rest of an
allocation. The graphics processor does from every offset that is not behind the end, so there, and
only there, the two part. -/
theorem ranges_agree {f : Fleet} (reachable : f.Reachable) (answers : f.world.platform.Answers)
    {near far : DeviceKey} {h : Host} {g : Gpu}
    (host : f.world.devices.get? near = some (.host h))
    (gpu : f.world.devices.get? far = some (.gpu g)) {alloc other : Allocation} {held : Bytes}
    (offered : (Device.host h).Offers f.world.platform.contents alloc held)
    (offers : (Device.gpu g).Offers f.world.platform.contents other held) (offset size : UInt64) :
    let w := f.world
    let wanted := held.requested? offset size
    Yields wanted (w.mapped near (alloc.pointer offset) size) ∧
      Yields wanted (w.mapped far (other.pointer offset) size) ∧
      Yields wanted (w.read far ⟨other.pointer offset, size⟩) ∧
      Yields (if size = wholeSize then none else wanted)
        (w.read near ⟨alloc.pointer offset, size⟩) ∧
      ((w.read near ⟨alloc.pointer offset, size⟩).toOption =
          (w.read far ⟨other.pointer offset, size⟩).toOption ↔
        (size = wholeSize → held.length < offset.toNat)) := by
  intro w wanted
  have fit := reachable.asks.1.world
  have far := World.yields_read_of_gpu fit answers gpu offers offset size
  have near := World.yields_read_of_host fit host offered offset size
  refine ⟨World.yields_mapped fit answers host offered offset size,
    World.yields_mapped fit answers gpu offers offset size, far, near, ?_⟩
  rw [near.toOption_eq, far.toOption_eq]
  by_cases whole : size = wholeSize
  · subst whole
    rw [if_pos rfl, Bytes.requested?_wholeSize]
    by_cases within : offset.toNat ≤ held.length
    · simp [within]
    · simp [within, Nat.lt_of_not_le]
  · simp [whole]

/-- The graphics processor gets the ten bytes of the host. -/
def matched : List FleetCall :=
  paired ++ [.world ⟨.allocate 0 (.hostVisible 10), rfl⟩,
    .world ⟨.transfer 0 ⟨⟨1⟩, 2, 0⟩ ⟨⟨⟨0⟩, 0, 0⟩, 10⟩ 1, rfl⟩]

/-- The handle of the host, that of the graphics processor, and the bytes behind both. -/
theorem offers_matched :
    let w := (after {} matched).world
    let held : Bytes := [1, 2, 3, 4, 5, 6, 7, 8, 9, 10]
    (∃ h, w.devices.get? 1 = some (.host h) ∧
        (Device.host h).Offers w.platform.contents ⟨⟨0⟩, 0⟩ held) ∧
      ∃ g, w.devices.get? 0 = some (.gpu g) ∧
        (Device.gpu g).Offers w.platform.contents ⟨⟨1⟩, 2⟩ held :=
  ⟨⟨_, rfl, by decide +kernel, _, rfl, by decide +kernel, by decide +kernel⟩,
    ⟨_, rfl, by decide +kernel, _, rfl, by decide +kernel, by decide +kernel, by decide +kernel⟩⟩

/-- A range at an odd offset is the same on both. -/
theorem ranges_agree_matched :
    let w := (after {} matched).world
    w.read 1 ⟨⟨⟨0⟩, 0, 1⟩, 2⟩ = .ok [2, 3] ∧ w.mapped 1 ⟨⟨0⟩, 0, 7⟩ wholeSize = .ok [8, 9, 10] ∧
      (w.read 1 ⟨⟨⟨0⟩, 0, 1⟩, 2⟩).toOption = (w.read 0 ⟨⟨⟨1⟩, 2, 1⟩, 2⟩).toOption := by
  intro w
  have reachable := Reachable.new.after matched
  have answers : w.platform.Answers := by
    unfold Platform.Answers
    decide +kernel
  obtain ⟨⟨h, host, offered⟩, g, gpu, offers⟩ := offers_matched
  have sized := ranges_agree reachable answers host gpu offered offers 1 2
  have rest := ranges_agree reachable answers host gpu offered offers 7 wholeSize
  exact ⟨sized.2.2.2.1, rest.1, sized.2.2.2.2.2 nofun⟩

/-- All of the allocation is read on the one device and refused on the other. -/
theorem read_rest_of_matched :
    let w := (after {} matched).world
    let held : Bytes := [1, 2, 3, 4, 5, 6, 7, 8, 9, 10]
    ((∃ h, w.devices.get? 1 = some (.host h) ∧
        (Device.host h).Offers w.platform.contents ⟨⟨0⟩, 0⟩ held) ∧
      ∃ g, w.devices.get? 0 = some (.gpu g) ∧
        (Device.gpu g).Offers w.platform.contents ⟨⟨1⟩, 2⟩ held) ∧
    w.read 0 ⟨⟨⟨1⟩, 2, 0⟩, wholeSize⟩ = .ok held ∧
    w.read 1 ⟨⟨⟨0⟩, 0, 0⟩, wholeSize⟩ =
      .error (.device (.precondition (.spanExceeds 0 wholeSize.toNat 10))) :=
  ⟨offers_matched, rfl, rfl⟩

end Fleet

end DeviceLayer
