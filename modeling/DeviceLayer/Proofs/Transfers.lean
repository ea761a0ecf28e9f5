import DeviceLayer.Proofs.NativeSafety

/-!
# Transfers

A transfer takes one of three ways: through the host by the devices' own reading and writing,
through the host because a range is odd or of another device, or as a native copy within one
graphics processor. All of them come to the same: the bytes of the source are in the target then,
and nothing else has changed.

* `Memory.Copied` — what a copy comes to, byte by byte.
* `World.copied_stage`, `copied_transfer` — what transfers come to where they succeed.
* `Gpu.Admits` — what a native copy and a copy through the host accept, one as the other.
* `Fleet.transfers_copy` — over all devices of a registry, and whatever was asked of them before.
-/

namespace DeviceLayer

open DeviceLayer.Action

/-! ## Copies -/

/-- The bytes of the range `src` of one device are at `dst` on another one in `m'`. They are those
that `m` has there, and all other bytes are the same in both. -/
def Memory.Copied (m : Memory) (source : DeviceKey) (src : Range) (key : DeviceKey) (dst : Pointer)
    (m' : Memory) : Prop :=
  ∃ held old new : Bytes,
    m (source, src.start.allocId) = some held ∧
      m (key, dst.allocId) = some old ∧ m' (key, dst.allocId) = some new ∧
      let first := src.start.offset.toNat
      let n := resolveSize src.start.offset src.length held.length
      first + n ≤ held.length ∧ dst.offset.toNat + n ≤ old.length ∧ new.length = old.length ∧
      (∀ i < n, new[dst.offset.toNat + i]? = held[first + i]?) ∧
      (∀ i, i < dst.offset.toNat ∨ dst.offset.toNat + n ≤ i → new[i]? = old[i]?) ∧
      ∀ cell, cell ≠ (key, dst.allocId) → m' cell = m cell

/-- The range of an allocation that holds `held` is in it, and these are its bytes. -/
def Range.Takes (range : Range) (held bytes : Bytes) : Prop :=
  let n := resolveSize range.start.offset range.length held.length
  range.start.offset.toNat + n ≤ held.length ∧ bytes = held.slice range.start.offset.toNat n

theorem Range.Takes.length {range : Range} {held bytes : Bytes} (takes : range.Takes held bytes) :
    bytes.length = resolveSize range.start.offset range.length held.length := by
  rw [takes.2]
  exact Bytes.length_slice_of_le takes.1

namespace Memory

variable {m m₁ m₂ : Memory} {source key : DeviceKey} {src : Range} {dst : Pointer}

theorem copied_of_splice {held old bytes : Bytes}
    (shown : m (source, src.start.allocId) = some held) (takes : src.Takes held bytes)
    (target : m (key, dst.allocId) = some old)
    (fits : dst.offset.toNat + bytes.length ≤ old.length) :
    m.Copied source src key dst
      (Function.update m (key, dst.allocId) (some (old.splice dst.offset.toNat bytes))) := by
  have length := takes.length
  obtain ⟨inside, rfl⟩ := takes
  refine ⟨held, old, _, shown, target, Function.update_self .., inside, length ▸ fits,
    Bytes.length_splice fits, fun i less => ?_, fun i outside => ?_,
    fun cell other => Function.update_of_ne other _ _⟩
  · rw [Bytes.getElem?_splice fits, if_pos (by omega), Nat.add_sub_cancel_left,
      Bytes.getElem?_slice less]
  · rw [Bytes.getElem?_splice fits, if_neg (by omega)]

/-- There is one memory that a copy comes to. -/
theorem Copied.unique (h₁ : m.Copied source src key dst m₁) (h₂ : m.Copied source src key dst m₂) :
    m₁ = m₂ := by
  obtain ⟨held, old, new₁, shown, target, target₁, -, -, -, inside₁, outside₁, others₁⟩ := h₁
  obtain ⟨held', old', new₂, shown', target', target₂, -, -, -, inside₂, outside₂, others₂⟩ := h₂
  obtain rfl : held = held' := Option.some.inj (shown.symm.trans shown')
  obtain rfl : old = old' := Option.some.inj (target.symm.trans target')
  have same : new₁ = new₂ := by
    apply List.ext_getElem?
    intro i
    by_cases before : i < dst.offset.toNat
    · rw [outside₁ i (.inl before), outside₂ i (.inl before)]
    · obtain ⟨j, rfl⟩ := Nat.exists_eq_add_of_le (Nat.not_lt.1 before)
      by_cases within : j < resolveSize src.start.offset src.length held.length
      · rw [inside₁ j within, inside₂ j within]
      · rw [outside₁ _ (.inr (by omega)), outside₂ _ (.inr (by omega))]
  funext cell
  by_cases here : cell = (key, dst.allocId)
  · rw [here, target₁, target₂, same]
  · rw [others₁ cell here, others₂ cell here]

end Memory

/-! ## Reading and writing where all fits -/

/-- Of an allocation that is an object, no range is as long as the size that stands for the rest. -/
theorem Range.takes_slice {range : Range} {held : Storage} (small : held.size ≤ maxObject)
    (inside : range.start.offset.toNat + range.length.toNat ≤ held.size) :
    range.Takes held.toBytes
      (held.slice range.start.offset.toNat range.length.toNat).toBytes := by
  have sized : range.length ≠ wholeSize := by
    intro whole
    have most : maxObject < wholeSize.toNat := by decide
    rw [whole] at inside
    omega
  rw [Range.Takes, resolveSize_of_ne sized, Storage.length_toBytes, Storage.toBytes_slice]
  exact ⟨inside, rfl⟩

theorem Host.takes_readRange {h : Host} (sized : h.Sized) (c : Contents) (range : Range) :
    (readRange range).wp
      (fun data _ => ∃ held, Device.memory c (.host h) range.start.allocId = some held ∧
        range.Takes held data.toBytes)
      (fun _ _ => True) h := by
  rw [readRange, wp_bind]
  refine (wp_block _ h).ok ?_
  rintro b t ⟨rfl, -, found⟩
  simp only [wp_bind, wp_checked, wp_pure, implies_true, and_true]
  exact fun _ span => ⟨b.bytes.toBytes, congrArg (Option.map _) found,
    Range.takes_slice (sized.each found) (checkSpan_eq_ok span)⟩

theorem Remote.takes_readRange {s : Live Remote} (sized : s.device.Sized) (c : Contents)
    (range : Range) :
    (readRange range).wp
      (fun data _ => ∃ held, Device.memory c (.remote s.device) range.start.allocId = some held ∧
        range.Takes held data.toBytes)
      (fun _ _ => True) s := by
  rw [readRange, wp_bind]
  refine (listens_receive _ s).ok ?_
  rintro _ t ⟨device, -⟩
  simp only [wp_bind, Live.wp_self, wp_checked, wp_pure, implies_true, and_true]
  intro bytes window
  rw [device] at window
  obtain ⟨found, inside⟩ := window?_eq_ok window
  exact ⟨bytes.toBytes, congrArg (Option.map _) found,
    Range.takes_slice (sized.each found) inside⟩

namespace Gpu

variable {s : Live Gpu} {id : UInt32} {a : BufferAllocation}

theorem Fit.length_bytes (fit : Fit s) (held : s.device.buffers.get? id = some a) :
    (a.bytes s.platform.contents).length = a.size := by
  have room := (fit.backed held).room
  rw [BufferAllocation.bytes, List.length_take, Storage.length_toBytes]
  exact Nat.min_eq_left room

/-- What a range of the native buffer holds, which the allocation holds as well. -/
theorem Fit.takes (fit : Fit s) {range : Range}
    (held : s.device.buffers.get? range.start.allocId = some a)
    (inside : range.start.offset.toNat + resolveSize range.start.offset range.length a.size ≤
      a.size) :
    range.Takes (a.bytes s.platform.contents)
      ((s.platform.contents.of a.buffer).toBytes.slice range.start.offset.toNat
        (resolveSize range.start.offset range.length a.size)) := by
  rw [Range.Takes, fit.length_bytes held]
  exact ⟨inside, (Bytes.slice_take inside).symm⟩

theorem takes_readRange (fit : Fit s) (range : Range) :
    (readRange range).wp
      (fun data _ => ∃ held,
        Device.memory s.platform.contents (.gpu s.device) range.start.allocId = some held ∧
        range.Takes held data.toBytes)
      (fun _ _ => True) s := by
  rw [readRange, wp_bind]
  refine (wp_checkedRange _ _ s).ok ?_
  rintro _ _ ⟨rfl, -, a, held, rfl, inside⟩
  rw [Live.wp_onPlatform]
  refine (Platform.wp_readBuffer (fit.backed held).roomy.known _ _).ok ?_
  rintro data _ ⟨bytes, -⟩
  exact ⟨_, congrArg (Option.map _) held, bytes ▸ fit.takes held inside⟩

end Gpu

namespace World

variable {key source : DeviceKey} {w : World} {dst : Pointer} {src : Range}

theorem memory_of_found {d : Device} (found : w.devices.get? key = some d) (id : UInt32) :
    w.memory (key, id) = d.memory w.platform.contents id := by
  rw [World.memory, found]
  rfl

theorem takes_readRange (fit : w.Fit) (key : DeviceKey) (range : Range) :
    (readRange key range).wp
      (fun data _ => ∃ held, w.memory (key, range.start.allocId) = some held ∧
        range.Takes held data.toBytes)
      (fun _ _ => True) w := by
  rw [readRange, wp_onDevice]
  cases found : w.devices.get? key with
  | none => trivial
  | some d =>
    rw [memory_of_found found]
    have own := fit.each found
    cases d with
    | host h => exact Host.takes_readRange own _ range
    | gpu g => exact Gpu.takes_readRange own range
    | remote r => exact Remote.takes_readRange (s := ⟨w.platform, r⟩) own _ range

/-- What was written lies in the allocation. -/
theorem fits_writeRange (fit : w.Fit) (housed : w.Housed) (key : DeviceKey) (dst : Pointer)
    {data : Storage} (short : data.size < maxWord) :
    (writeRange key dst data).wp
      (fun _ _ => ∃ old, w.memory (key, dst.allocId) = some old ∧
        dst.offset.toNat + data.size ≤ old.length)
      (fun _ _ => True) w := by
  rw [writeRange, wp_onDevice]
  cases found : w.devices.get? key with
  | none => trivial
  | some d =>
    rw [memory_of_found found]
    cases d with
    | host h =>
      refine (Host.wp_writeRange h dst data).ok ?_
      rintro _ _ ⟨b, held, inside, -⟩
      exact ⟨_, congrArg (Option.map _) held, by rwa [Storage.length_toBytes]⟩
    | gpu g =>
      have own : Gpu.Fit ⟨w.platform, g⟩ := fit.each found
      refine (Gpu.wp_writeRange (housed.each found) short).ok ?_
      rintro _ _ ⟨-, a, held, inside, -⟩
      exact ⟨_, congrArg (Option.map _) held, by rwa [own.length_bytes held]⟩
    | remote r =>
      refine (Remote.wp_writeRange ⟨w.platform, r⟩ dst data).ok ?_
      rintro _ _ ⟨-, bytes, held, inside, -⟩
      exact ⟨_, congrArg (Option.map _) held, by rwa [Storage.length_toBytes]⟩

theorem copied_stage (fit : w.Fit) (housed : w.Housed) (key : DeviceKey) (dst : Pointer)
    (src : Range) (source : DeviceKey) :
    (stage key dst src source).wp (fun _ t => w.memory.Copied source src key dst t.memory)
      (fun _ _ => True) w := by
  have start : Holds w w.memory w := ⟨rfl, fun _ => rfl, rfl, housed, rfl⟩
  rw [stage, wp_bind]
  have read := ((still_readRange source src w).and (asks_steps.readRange source src w)).and
    ((takes_readRange fit source src).and (clear_readRange fit src))
  refine read.mono ?_ fun _ _ _ => trivial
  rintro data v ⟨⟨still, asks⟩, ⟨held, shown, takes⟩, short⟩
  -- Reading leaves all bytes as they are, so what is written to is the memory from before.
  have holds := still w w.memory start
  have written := (holds_writeRange holds key dst short).and
    (fits_writeRange (asks fit).1 holds.housed key dst short)
  refine written.ok ?_
  rintro _ t ⟨⟨old, target, ends, -⟩, old', target', inside⟩
  rw [holds.memory, target] at target'
  obtain rfl := Option.some.inj target'
  rw [ends.memory]
  exact Memory.copied_of_splice shown takes target (by rwa [Storage.length_toBytes])

end World

/-! ## Native copies -/

theorem Platform.rewritten_copy {p : Platform} {b : Buffer} (known : b.id < p.contents.length)
    (label : EncoderLabel) (source : Buffer) (srcOffset dstOffset size : Nat) :
    p.Rewritten b ((p.contents.of b).toBytes.splice dstOffset
        ((p.contents.of source).toBytes.slice srcOffset size))
      (p.submit label [.copy source srcOffset b dstOffset size]).2 where
  grows := Nat.le_of_eq (List.length_modify ..).symm
  patched := by
    refine (congrArg Storage.toBytes (Contents.of_write_self known _ _)).trans ?_
    rw [Storage.toBytes_splice, Storage.toBytes_slice]
  others other _ apart := Contents.of_write_of_ne apart _ _ _

namespace Gpu

variable {s : Live Gpu} {a : BufferAllocation} {dst : Pointer} {src : Range}

/-- What lies in an allocation is shorter than the longest word. -/
theorem Fit.short (fit : Fit s) {id : UInt32} (held : s.device.buffers.get? id = some a) {n : Nat}
    (inside : n ≤ a.size) : n < maxWord := by
  have room := (fit.backed held).room
  have small := (fit.backed held).roomy.small
  simp only [copyAlignment] at small
  omega

/-- `size` bytes at a pointer lie in an allocation of the device. -/
def Reaches (g : Gpu) (pointer : Pointer) (size : UInt64) : Prop :=
  pointer.device = g.id ∧ ∃ a, g.buffers.get? pointer.allocId = some a ∧
    pointer.offset.toNat + resolveSize pointer.offset size a.size ≤ a.size

/-- The source and the target both lie in allocations of the device. -/
def Admits (g : Gpu) (dst : Pointer) (src : Range) : Prop :=
  src.device = g.id ∧ ∃ a, g.buffers.get? src.start.allocId = some a ∧
    let n := resolveSize src.start.offset src.length a.size
    src.start.offset.toNat + n ≤ a.size ∧ g.Reaches dst (UInt64.ofNat n)

/-- Whether both offsets and the length of what is to be copied are whole groups of bytes. -/
def onBoundaries (g : Gpu) (dst : Pointer) (src : Range) : Bool :=
  isAligned src.start.offset.toNat && isAligned dst.offset.toNat &&
    (g.buffers.get? src.start.allocId).all fun a =>
      isAligned (resolveSize src.start.offset src.length a.size)

/-- A range is looked up and used, or it is in no allocation of the device. -/
theorem wp_reaching {α : Type} {pointer : Pointer} {size : UInt64}
    {f : Buffer × Nat → Action (Live Gpu) α} {Q : α → Live Gpu → Prop}
    {E : Fault → Live Gpu → Prop}
    (found : pointer.device = s.device.id → ∀ a, s.device.buffers.get? pointer.allocId = some a →
      pointer.offset.toNat + resolveSize pointer.offset size a.size ≤ a.size →
        (f (a.buffer, resolveSize pointer.offset size a.size)).wp Q E s)
    (refused : ¬s.device.Reaches pointer size → ∀ e, E e s) :
    (checkedRange pointer size >>= f).wp Q E s := by
  simp only [checkedRange, resolve, checkLocal, allocation, wp_bind, Live.wp_self, wp_require,
    wp_orRefuse, wp_pure, decide_eq_true_eq, decide_eq_false_iff_not]
  refine ⟨fun here => ⟨fun a held => ⟨found here a held, fun outside => refused ?_ _⟩,
    fun missing => refused ?_ _⟩, fun there => refused ?_ _⟩
  · rintro ⟨-, a', held', inside⟩
    obtain rfl := Option.some.inj (held.symm.trans held')
    exact outside inside
  · rintro ⟨-, a', held', -⟩
    rw [missing] at held'
    cases held'
  · exact fun reaches => there reaches.1

/-- A native copy replaces just the bytes that it copies. -/
theorem wp_copyWithin_native (fit : Fit s) (dst : Pointer) (src : Range) :
    (copyWithin dst src).wp
      (fun copied t => copied = true → src.device = s.device.id ∧ t.device = s.device ∧
        ∃ a b bytes, s.device.buffers.get? src.start.allocId = some a ∧
          s.device.buffers.get? dst.allocId = some b ∧
          src.Takes (a.bytes s.platform.contents) bytes ∧
          dst.offset.toNat + bytes.length ≤ b.size ∧
          s.platform.Rewritten b.buffer
            ((s.platform.contents.of b.buffer).toBytes.splice dst.offset.toNat bytes) t.platform)
      (fun _ _ => True) s := by
  simp only [copyWithin, checkLocal, wp_bind, Live.wp_self, wp_require, wp_ite, wp_pure,
    implies_true, and_true, ne_eq, not_not]
  intro _
  refine ⟨fun _ copied => Bool.noConfusion copied, fun here => ?_⟩
  refine (wp_checkedRange _ _ _).ok ?_
  rintro _ _ ⟨rfl, -, a, held, rfl, inside⟩
  refine (wp_checkedRange _ _ _).ok ?_
  rintro _ _ ⟨rfl, -, b, held', rfl, fits⟩
  simp only [wp_discard, Live.wp_request]
  refine ⟨fun _ _ => ?_, fun _ copied => Bool.noConfusion copied⟩
  have takes := fit.takes held inside
  have length := takes.length
  rw [fit.length_bytes held] at length
  rw [resolveSize_data (fit.short held (Nat.le_of_add_left_le inside)), ← length] at fits
  exact ⟨here, trivial, a, b, _, held, held', takes, fits,
    Platform.rewritten_copy (fit.backed held').roomy.known _ _ _ _ _⟩

/-- On boundaries a copy is native, and there is one just where both ranges are of the device. -/
theorem wp_copyWithin_onBoundaries (here : src.device = s.device.id)
    (aligned : s.device.onBoundaries dst src = true) :
    (copyWithin dst src).wp
      (fun copied t => copied = true ∧ t.device = s.device ∧ s.device.Admits dst src)
      (fun _ _ => ¬s.device.Admits dst src) s := by
  simp only [onBoundaries, Bool.and_eq_true] at aligned
  obtain ⟨⟨srcAligned, dstAligned⟩, sized⟩ := aligned
  simp only [copyWithin, checkLocal, wp_bind, Live.wp_self, wp_require, decide_eq_true_eq,
    decide_eq_false_iff_not]
  refine ⟨fun _ => (wp_ite _ _).2 ⟨fun there => absurd here there, fun _ => ?_⟩, fun there => ?_⟩
  · refine wp_reaching (fun _ a held inside => ?_) fun outside _ => ?_
    · refine wp_reaching (fun home b held' fits => ?_) fun outside _ => ?_
      · have length : isAligned (resolveSize src.start.offset src.length a.size) = true := by
          simpa [held] using sized
        simp only [srcAligned, dstAligned, length, Bool.and_self, if_true, discard_bind, wp_bind,
          Live.wp_request, wp_pure, true_and]
        exact ⟨here, a, held, inside, home, b, held', fits⟩
      · rintro ⟨-, a', held', -, reaches⟩
        obtain rfl := Option.some.inj (held.symm.trans held')
        exact outside reaches
    · rintro ⟨-, a, held, inside, -⟩
      exact outside ⟨here, a, held, inside⟩
  · rintro ⟨-, -, -, -, home, -⟩
    exact there home

end Gpu

/-! ## Transfers -/

namespace World

variable {key source : DeviceKey} {w : World} {g : Gpu} {dst : Pointer} {src : Range}

/-- The device behind a key is there, and has an id in the registry in force. -/
structure Enrolled (w : World) (key : DeviceKey) (id : DeviceId) : Prop where
  listed : w.registry.find? id = some key
  named : (w.devices.get? key).map Device.id = some id

theorem Enrolled.id_eq {id : DeviceId} (enrolled : w.Enrolled key id) {d : Device}
    (found : w.devices.get? key = some d) : d.id = id := by
  have named := enrolled.named
  rw [found] at named
  exact Option.some.inj named

/-- A native copy would be within one buffer. -/
def CopiesInPlace (w : World) (key : DeviceKey) (dst : Pointer) (src : Range) : Prop :=
  ∃ g, w.devices.get? key = some (.gpu g) ∧ dst.allocation = src.start.allocation ∧
    g.onBoundaries dst src = true

theorem copied_native (fit : w.Fit) (housed : w.Housed) (found : w.devices.get? key = some (.gpu g))
    (owner : w.Enrolled source src.device) (here : w.Enrolled key g.id)
    (dst : Pointer) :
    (Gpu.copyWithin dst src).wp
      (fun copied t => copied = true →
        w.memory.Copied source src key dst (w.put key (.gpu t.device) t.platform).memory)
      (fun _ _ => True) ⟨w.platform, g⟩ := by
  have start : Holds w w.memory w := ⟨rfl, fun _ => rfl, rfl, housed, rfl⟩
  have own : Gpu.Fit ⟨w.platform, g⟩ := fit.each found
  refine (Gpu.wp_copyWithin_native own dst src).ok ?_
  rintro copied t copies isTrue
  obtain ⟨near, device, a, b, bytes, held, held', takes, fits, written⟩ := copies isTrue
  -- The source is the device itself, since that has the id of the source.
  obtain rfl : source = key := Option.some.inj (owner.listed.symm.trans (near ▸ here.listed))
  have ends := start.gpu_written found held' fits written
  rw [device, ends.memory]
  refine Memory.copied_of_splice ?_ takes ?_ ?_
  · exact (memory_of_found found _).trans (congrArg (Option.map _) held)
  · exact (memory_of_found found _).trans (congrArg (Option.map _) held')
  · rwa [own.length_bytes held']

theorem copied_transfer (fit : w.Fit) (housed : w.Housed) {id : DeviceId}
    (here : w.Enrolled key id) (owner : w.Enrolled source src.device) (dst : Pointer) :
    (transfer key dst src source).wp
      (fun _ t => dst.device = id ∧ w.memory.Copied source src key dst t.memory)
      (fun _ _ => True) w := by
  simp only [transfer, device, wp_bind, wp_get, wp_orRefuse, implies_true, and_true]
  intro d found
  have named := here.id_eq found
  have staged := copied_stage fit housed key dst src source
  cases d with
  | host | remote =>
    simp only [wp_bind, wp_require, decide_eq_true_eq, implies_true, and_true]
    exact fun home => staged.ok fun _ _ copied => ⟨home.trans named, copied⟩
  | gpu g =>
    simp only [wp_bind, onGpu, wp_onDevice, found]
    obtain rfl : g.id = id := named
    have homes : (Gpu.copyWithin dst src).wp (fun _ _ => dst.device = g.id) (fun _ _ => True)
        ⟨w.platform, g⟩ := by
      simp only [Gpu.copyWithin, Gpu.checkLocal, wp_bind, Live.wp_self, wp_require,
        decide_eq_true_eq, implies_true, and_true]
      exact fun home => (Evolves.any _ _).ok fun _ _ _ => home
    have tried := ((copied_native fit housed found owner here dst).and
      (Gpu.copyWithin_copies dst src ⟨w.platform, g⟩)).and homes
    refine tried.ok ?_
    rintro copied t ⟨⟨native, kept⟩, home⟩
    refine (wp_ite _ _).2 ⟨fun notCopied => ?_, fun copied => ?_⟩
    · obtain rfl := kept (by simpa using notCopied)
      rw [put_self found]
      exact staged.ok fun _ _ copied => ⟨home, copied⟩
    · exact ⟨home, native (by simpa using copied)⟩

/-- Within one device, copying through the host succeeds just where both ranges are of it. -/
theorem wp_stage_within (fit : w.Fit) (found : w.devices.get? key = some (.gpu g))
    (answers : w.platform.Answers) (here : src.device = g.id) (dst : Pointer) :
    (stage key dst src key).wp (fun _ t => t.devices = w.devices ∧ g.Admits dst src)
      (fun _ _ => ¬g.Admits dst src) w := by
  have own : Gpu.Fit ⟨w.platform, g⟩ := fit.each found
  rw [stage, wp_bind, readRange, wp_onDevice, found]
  refine Gpu.wp_reaching (fun _ a held inside => ?_) fun outside _ => ?_
  · have backed := own.backed held
    have room := Nat.le_trans inside backed.room
    have read := ((Platform.wp_readBuffer_of_le answers backed.roomy room).and
      (Platform.wp_readBuffer backed.roomy.known _ _)).and (Platform.extends_readBuffer _ _ _ _)
    refine (Live.wp_onPlatform _).2 (read.mono ?_ fun _ _ never => never.1.1.elim)
    rintro data q ⟨⟨⟨-, patched⟩, -, size⟩, kept⟩
    have short : data.size < maxWord := by
      rw [size]
      exact own.short held (Nat.le_of_add_left_le inside)
    dsimp only
    rw [writeRange, wp_onDevice, get?_put, if_pos rfl]
    refine Gpu.wp_reaching (fun home b held' fits => ?_) fun outside _ => ?_
    · -- The read has made a staging buffer, and left the target as long as it was.
      have backed' : b.Backed q := (own.backed held').of_same kept.grows
        (congrArg Storage.size (kept.old _ (own.backed held').roomy.known))
      have fits' := fits
      rw [Gpu.resolveSize_data short] at fits'
      have written := Platform.wp_writeBuffer_of_le patched.answers backed'.roomy
        (Nat.le_trans fits' backed'.room)
      refine (Live.wp_onPlatform _).2 (written.mono (fun _ q' _ => ⟨?_, ?_⟩) fun _ _ => False.elim)
      · simp only [put, SortedMap.insert_eq_self found]
      · exact ⟨here, a, held, inside, home, b, held', size ▸ fits⟩
    · rintro ⟨-, a', held', -, reaches⟩
      obtain rfl := Option.some.inj (held.symm.trans held')
      exact outside (size ▸ reaches)
  · rintro ⟨-, a, held, inside, -⟩
    exact outside ⟨here, a, held, inside⟩

/-- On boundaries, so does a transfer within one device. -/
theorem wp_transfer_onBoundaries (found : w.devices.get? key = some (.gpu g))
    (here : src.device = g.id) (aligned : g.onBoundaries dst src = true) (source : DeviceKey) :
    (transfer key dst src source).wp (fun _ t => t.devices = w.devices ∧ g.Admits dst src)
      (fun _ _ => ¬g.Admits dst src) w := by
  simp only [transfer, device, wp_bind, wp_get, found, wp_orRefuse_some, onGpu, wp_onDevice]
  have native := Gpu.wp_copyWithin_onBoundaries (s := ⟨w.platform, g⟩) here aligned
  refine native.mono ?_ fun _ _ refused => refused
  rintro _ t ⟨rfl, device, admits⟩
  refine ⟨?_, admits⟩
  rw [device]
  exact SortedMap.insert_eq_self found

/-- A native copy and a copy through the host accept the same and come to the same. -/
theorem transfer_agrees_stage (fit : w.Fit) (housed : w.Housed)
    (found : w.devices.get? key = some (.gpu g)) (here : w.Enrolled key g.id)
    (near : src.device = g.id) (aligned : g.onBoundaries dst src = true)
    (answers : w.platform.Answers) :
    let native := (transfer key dst src key).outcome w
    let staged := (stage key dst src key).outcome w
    staged.1.isOk = native.1.isOk ∧ staged.2.devices = native.2.devices ∧
      staged.2.memory = native.2.memory := by
  have copies := (wp_transfer_onBoundaries found near aligned key).and
    ((copied_transfer fit housed here (near ▸ here) dst).and (transfer_spares key dst src key w))
  have stages := (wp_stage_within fit found answers near dst).and
    ((copied_stage fit housed key dst src key).and (stage_spares key dst src key w))
  dsimp only
  cases native : (transfer key dst src key).outcome w with
  | mk result t =>
    cases staged : (stage key dst src key).outcome w with
    | mk result' t' =>
      cases result with
      | ok =>
        obtain ⟨⟨devices, admits⟩, ⟨-, copied⟩, -⟩ := copies.ended native
        cases result' with
        | ok =>
          obtain ⟨⟨devices', -⟩, copied', -⟩ := stages.ended staged
          exact ⟨rfl, devices'.trans devices.symm, copied'.unique copied⟩
        | error => exact absurd admits (stages.failed staged).1
      | error =>
        obtain ⟨refused, -, left⟩ := copies.failed native
        cases result' with
        | ok => exact absurd (stages.ended staged).1.2 refused
        | error =>
          obtain ⟨-, -, left'⟩ := stages.failed staged
          exact ⟨rfl, left'.devices.trans left.devices.symm,
            (left'.memory housed).trans (left.memory housed).symm⟩

end World

/-! ## Allocations of a fleet live apart -/

theorem World.rehoused_bringUp (limits : Limits) : (bringUp limits).Evolves Rehoused := by
  intro w
  simp only [bringUp, wp_bind, wp_within]
  refine (Gpu.wp_bringUp limits w.platform).mono ?_ fun _ _ asks housed =>
    housed.widens asks.lasts.grows
  rintro g p ⟨empty, -, asks⟩
  have added := rehoused_addDevice (d := .gpu g) (by rintro _ ⟨⟩; exact empty)
  refine (added { w with platform := p }).mono ?_ ?_
  · exact fun _ _ step housed => step (housed.widens asks.lasts.grows)
  · exact fun _ _ step housed => step (housed.widens asks.lasts.grows)

theorem Request.rehoused (request : Request) (h : Holder) :
    Gpu.Rehoused h.client.live (request.step h).client.live := by
  cases request with
  | queue i =>
    simp only [step]
    split
    · exact Evolution.refl h.client.live
    · exact Call.rehoused _ h.client
  | ask call =>
    cases call with
    | finalize i => exact Call.rehoused (.finalize i) h.client
    | _ => exact Call.rehoused _ h.client

theorem FleetCall.rehoused (call : FleetCall) (f : Fleet) :
    World.Rehoused f.world (call.step f).world := by
  open World in
  cases call with
  | bringUp limits => exact (rehoused_bringUp limits).outcome f.world
  | addRemote device => exact (rehoused_addDevice fun _ => Device.noConfusion).outcome f.world
  | world call => exact call.val.rehoused.outcome f.world
  | writeRegion key region offset data =>
    simp only [step]
    split
    · exact f.world.rehoused_writeRegion key region offset data
    · exact Evolution.refl f.world
  | ask key request =>
    simp only [step]
    split
    · rename_i g found
      exact fun housed => housed.gpu found (request.val.rehoused (f.holder key g))
    · exact Evolution.refl f.world

namespace Fleet

theorem Reachable.housed {f : Fleet} (reachable : f.Reachable) : f.world.Housed := by
  induction reachable with
  | new => exact ⟨nofun, nofun⟩
  | step call _ ih => exact call.rehoused _ ih

/-! ## Every transfer -/

/-- Between any two devices of a registry, wherever a run can lead: where a transfer succeeds, the
target holds what the source held, and no other byte has changed; where it fails, none has. Within
one graphics processor, between different allocations and as long as it answers, a transfer on
boundaries is always native, and copying through the host would accept the same and come to the
same. A native copy within one buffer is none that the graphics library takes. -/
theorem transfers_copy {f : Fleet} (reachable : f.Reachable) {key source : DeviceKey}
    {id : DeviceId} {src : Range} (here : f.world.Enrolled key id)
    (owner : f.world.Enrolled source src.device) (dst : Pointer) :
    let w := f.world
    let o := (World.transfer key dst src source).outcome w
    (o.1 = .ok () → dst.device = id ∧
      (¬w.CopiesInPlace key dst src → w.memory.Copied source src key dst o.2.memory)) ∧
    (∀ e, o.1 = .error e → o.2.memory = w.memory) ∧
    ∀ g, w.devices.get? key = some (.gpu g) → source = key →
      dst.allocation ≠ src.start.allocation → g.onBoundaries dst src = true →
        w.platform.Answers →
          let staged := (World.stage key dst src key).outcome w
          ((Gpu.copyWithin dst src).outcome ⟨w.platform, g⟩).1 ≠ .ok false ∧
            staged.1.isOk = o.1.isOk ∧ staged.2.devices = o.2.devices ∧
            staged.2.memory = o.2.memory := by
  have fit := reachable.asks.1.world
  have housed := reachable.housed
  refine ⟨fun succeeds => ?_, fun e failed => ?_, ?_⟩
  · obtain ⟨home, copied⟩ :=
      (World.copied_transfer fit housed here owner dst).ended (Prod.ext succeeds rfl)
    exact ⟨home, fun _ => copied⟩
  · exact ((World.transfer_spares key dst src source f.world).failed
      (Prod.ext failed rfl)).memory housed
  · rintro g found rfl - aligned answers
    have named : g.id = id := here.id_eq found
    have near : src.device = g.id := (owner.id_eq found).symm
    refine ⟨fun notCopied => ?_, ?_⟩
    · have native := Gpu.wp_copyWithin_onBoundaries (s := ⟨f.world.platform, g⟩) near aligned
      cases (native.ended (Prod.ext notCopied rfl)).1
    · exact World.transfer_agrees_stage fit housed found (named ▸ here) near aligned answers

def enroll (key : DeviceKey) : FleetCall := .world ⟨.register key, rfl⟩

/-- The host with ten bytes, and a graphics processor with allocations of nine and of thirteen.
Seven bytes of the host were taken over to an odd place of the shorter one. -/
def paired : List FleetCall :=
  [.bringUp ⟨{}, by decide⟩, .world ⟨.addHost 64, rfl⟩, enroll 1, enroll 0,
    .world ⟨.allocate 1 (.hostVisible 10), rfl⟩,
    .world ⟨.write 1 ⟨⟨0⟩, 0, 0⟩ (.ofBytes [1, 2, 3, 4, 5, 6, 7, 8, 9, 10]), rfl⟩,
    .world ⟨.allocate 0 (.deviceLocal 9), rfl⟩, .world ⟨.allocate 0 (.deviceLocal 13), rfl⟩,
    .world ⟨.transfer 0 ⟨⟨1⟩, 0, 1⟩ ⟨⟨⟨0⟩, 0, 2⟩, 7⟩ 1, rfl⟩]

/-- Eight of these bytes go to the other allocation by a native copy. -/
theorem transfers_copy_paired :
    let w := (after {} paired).world
    let src : Range := ⟨⟨⟨1⟩, 0, 0⟩, 8⟩
    let dst : Pointer := ⟨⟨1⟩, 1, 4⟩
    let native := (World.transfer 0 dst src 0).outcome w
    let staged := (World.stage 0 dst src 0).outcome w
    native.1 = .ok () ∧ w.memory.Copied 0 src 0 dst native.2.memory ∧
      native.2.memory (0, 1) = some [0, 0, 0, 0, 0, 3, 4, 5, 6, 7, 8, 9, 0] ∧
      staged.1.isOk = native.1.isOk ∧ staged.2.memory = native.2.memory := by
  intro w src dst native staged
  have enrolled : w.Enrolled 0 ⟨1⟩ := ⟨by decide +kernel, by decide +kernel⟩
  have owner : w.Enrolled 0 src.device := enrolled
  obtain ⟨g, found, aligned⟩ : ∃ g, w.devices.get? 0 = some (.gpu g) ∧
      g.onBoundaries dst src = true := ⟨_, rfl, by decide +kernel⟩
  have apart : dst.allocation ≠ src.start.allocation := by decide
  have answers : w.platform.Answers := by
    unfold Platform.Answers
    decide +kernel
  obtain ⟨copies, -, agrees⟩ :=
    transfers_copy (Reachable.new.after paired) enrolled owner dst
  have succeeds : native.1 = .ok () :=
    congrArg Prod.fst (outcome_of_isOk (a := World.transfer 0 dst src 0) (by decide +kernel))
  obtain ⟨-, same, -, bytes⟩ := agrees g found rfl apart aligned answers
  refine ⟨succeeds, (copies succeeds).2 ?_, by decide +kernel, same, bytes⟩
  rintro ⟨-, -, within, -⟩
  exact apart within

end Fleet

end DeviceLayer
