import DeviceLayer.Proofs.Worlds
import Mathlib.Logic.Function.Basic

/-!
# Exchange between devices

What moving bytes between devices comes to in the memory of the world. Reading and waiting change no
byte; a write replaces just the bytes that it writes, however the devices are stored.

* `Host.Frame` — relations that allow bytes of the host to be replaced by as many.
* `World.Holds` — a world with the devices of another one, and with a given memory.
* `World.Still` — the memory of the world stays as it is.
* `World.holds_allocate`, `holds_deallocate`, `holds_writeRange`, `holds_transfer` — what else can
  come of memory.
-/

namespace DeviceLayer

open DeviceLayer.Action

namespace Device

def isGpu : Device → Bool
  | .gpu _ => true
  | .host _ | .remote _ => false

/-- What a launch goes by: whether a device is a graphics processor, and its id. -/
def badge (d : Device) : Bool × DeviceId := (d.isGpu, d.id)

theorem badge_congr {d d' : Device} (kind : d'.isGpu = d.isGpu)
    (assigned : d'.assigned = d.assigned) : d'.badge = d.badge := by
  rw [badge, badge, kind, id, id, assigned]

theorem image?_gpu {g g' : Gpu} (images : g'.images = g.images) :
    image? (.gpu g') = image? (.gpu g) := by
  funext id
  simp [image?, images]

theorem image?_other {d : Device} (other : d.isGpu = false) : d.image? = fun _ => none := by
  cases d with
  | host | remote => rfl
  | gpu => cases other

theorem memory_congr {g g' : Gpu} {c c' : Contents} {id : UInt32}
    (same : g'.buffers.get? id = g.buffers.get? id)
    (kept : ∀ a, g.buffers.get? id = some a → c'.of a.buffer = c.of a.buffer) :
    memory c' (.gpu g') id = memory c (.gpu g) id := by
  rw [memory, memory, same]
  cases held : g.buffers.get? id with
  | none => rfl
  | some a => rw [Option.map_some, Option.map_some, BufferAllocation.bytes, kept a held,
      BufferAllocation.bytes]

end Device

/-! ## Blocks of the host -/

namespace Host

/-- The owner of a handle is looked at first, then the block behind it. -/
theorem wp_block (alloc : Allocation) (h : Host) :
    (block alloc).wp
      (fun b t => t = h ∧ alloc.device = h.id ∧ h.blocks.get? alloc.id = some b)
      (fun _ t => t = h) h := by
  simp only [block, checkOwner, wp_bind, wp_get, wp_require, wp_orRefuse, implies_true, and_true,
    true_and, decide_eq_true_eq]
  exact fun here _ found => ⟨here, found⟩

/-- What goes on with a block of the device. -/
theorem evolves_block_bind {α : Type} {R : Host → Host → Prop} [Evolution R] {alloc : Allocation}
    {f : HostBlock → Action Host α}
    (rest : ∀ h b, h.blocks.get? alloc.id = some b →
      (f b).wp (fun _ t => R h t) (fun _ t => R h t) h) :
    (block alloc >>= f).Evolves R := by
  intro h
  refine (wp_bind _ _).2 ((wp_block alloc h).mono ?_ ?_)
  · rintro b t ⟨rfl, -, found⟩
    exact rest t b found
  · rintro e t rfl
    exact Evolution.refl t

theorem checkSpan_eq_ok {offset length total : Nat} {u : Unit}
    (h : checkSpan offset length total = .ok u) : offset + length ≤ total := by
  unfold checkSpan at h
  split at h
  · assumption
  · cases h

/-- A relation that allows bytes to be replaced by as many. -/
class Frame (R : Host → Host → Prop) : Prop extends Evolution R where
  patches : ∀ {h : Host} {id : UInt32} {b b' : HostBlock}, h.blocks.get? id = some b →
    b'.bytes.size = b.bytes.size → R h { h with blocks := h.blocks.insert id b' }

theorem evolves_readRange {R : Host → Host → Prop} [Evolution R] (range : Range) :
    (readRange range).Evolves R := by
  refine evolves_block_bind fun h b found => ?_
  have same : R h h := Evolution.refl h
  simp only [wp_bind, wp_checked, wp_pure]
  exact ⟨fun _ _ => same, fun _ _ => same⟩

section

variable {R : Host → Host → Prop} [Frame R]

theorem evolves_mapRange (pointer : Pointer) (size : UInt64) :
    (mapRange pointer size).Evolves R := by
  refine evolves_block_bind fun h b found => ?_
  have same : R h h := Evolution.refl h
  simp only [putBlock, wp_bind, wp_require, wp_checked, wp_modify, wp_pure]
  exact ⟨fun _ => ⟨fun _ _ => Frame.patches found rfl, fun _ _ => same⟩, fun _ => same⟩

theorem evolves_unmap (alloc : Allocation) : (unmap alloc).Evolves R := by
  refine evolves_block_bind fun h b found => ?_
  simp only [putBlock, wp_bind, wp_require, wp_modify]
  exact ⟨fun _ => Frame.patches found rfl, fun _ => Evolution.refl h⟩

theorem evolves_writeRange (dst : Pointer) (data : Storage) :
    (writeRange dst data).Evolves R := by
  refine evolves_block_bind fun h b found => ?_
  simp only [putBlock, wp_bind, wp_checked, wp_modify]
  refine ⟨fun _ span => Frame.patches found ?_, fun _ _ => Evolution.refl h⟩
  exact Storage.size_splice (checkSpan_eq_ok span)

end

end Host

namespace World

/-- The world `w` has the devices, the registry and the images of `w₀`, and the memory `m`. -/
structure Holds (w₀ : World) (m : Memory) (w : World) : Prop where
  registry : w.registry = w₀.registry
  badges : ∀ key, (w.devices.get? key).map Device.badge = (w₀.devices.get? key).map Device.badge
  images : w.image? = w₀.image?
  housed : w.Housed
  memory : w.memory = m

variable {α : Type} {w₀ w : World} {m : Memory} {key : DeviceKey}

theorem Holds.ids (h : Holds w₀ m w) (key : DeviceKey) :
    (w.devices.get? key).map Device.id = (w₀.devices.get? key).map Device.id := by
  have badge := congrArg (Option.map Prod.snd) (h.badges key)
  rwa [Option.map_map, Option.map_map] at badge

theorem Holds.cell (h : Holds w₀ m w) {d : Device} (found : w.devices.get? key = some d)
    (id : UInt32) : m (key, id) = d.memory w.platform.contents id := by
  rw [← h.memory, World.memory, found]
  rfl

/-- Another device, on the platform `p`, may stand behind a key: it goes by the same badge, has its
allocations to itself, and the buffers of all other devices hold what they held. -/
structure Replaces (w : World) (key : DeviceKey) (d d' : Device) (p : Platform) : Prop where
  found : w.devices.get? key = some d
  badge : d'.badge = d.badge
  images : d'.image? = d.image?
  housed : (w.put key d' p).Housed
  spares : ∀ k g id a, k ≠ key → w.devices.get? k = some (.gpu g) →
    g.buffers.get? id = some a → p.contents.of a.buffer = w.platform.contents.of a.buffer

theorem Replaces.other {d d' : Device} {p : Platform} (housed : w.Housed)
    (found : w.devices.get? key = some d) (other : d.isGpu = false) (badge : d'.badge = d.badge)
    (contents : p.contents = w.platform.contents) : w.Replaces key d d' p where
  found := found
  badge := badge
  images := by
    have other' : d'.isGpu = false := (congrArg Prod.fst badge).trans other
    rw [Device.image?_other other, Device.image?_other other']
  housed := by
    have other' : d'.isGpu = false := (congrArg Prod.fst badge).trans other
    refine housed.other (Nat.le_of_eq (congrArg List.length contents).symm) ?_
    rintro g rfl
    cases other'
  spares _ _ _ _ _ _ _ := by rw [contents]

theorem Replaces.gpu {g : Gpu} {s : Live Gpu} (housed : w.Housed)
    (found : w.devices.get? key = some (.gpu g)) (step : Gpu.Rehoused ⟨w.platform, g⟩ s)
    (images : s.device.images = g.images)
    (spares : ∀ k g id a, k ≠ key → w.devices.get? k = some (.gpu g) →
      g.buffers.get? id = some a →
        s.platform.contents.of a.buffer = w.platform.contents.of a.buffer) :
    w.Replaces key (.gpu g) (.gpu s.device) s.platform where
  found := found
  badge := Device.badge_congr rfl step.assigned
  images := Device.image?_gpu images
  housed := housed.gpu found step
  spares := spares

variable {d d' : Device} {p : Platform}

theorem Replaces.memory (new : w.Replaces key d d' p) :
    (w.put key d' p).memory =
      fun cell => if cell.1 = key then d'.memory p.contents cell.2 else w.memory cell := by
  funext cell
  rw [World.memory, World.memory, get?_put]
  by_cases here : cell.1 = key
  · rw [if_pos here, if_pos here, Option.bind_some]
    rfl
  · rw [if_neg here, if_neg here]
    cases other : w.devices.get? cell.1 with
    | none => rfl
    | some o =>
      -- Of the other devices, only graphics processors look at native buffers.
      cases o with
      | host | remote => rfl
      | gpu g => exact Device.memory_congr rfl fun a => new.spares cell.1 g cell.2 a here other

theorem Holds.replace (h : Holds w₀ m w) (new : w.Replaces key d d' p) :
    Holds w₀ (fun cell => if cell.1 = key then d'.memory p.contents cell.2 else m cell)
      (w.put key d' p) where
  registry := h.registry
  badges k := by
    rw [← h.badges, get?_put]
    by_cases here : k = key
    · rw [if_pos here, here, new.found, Option.map_some, Option.map_some, new.badge]
    · rw [if_neg here]
  images := by
    rw [← h.images]
    funext cell
    rw [image?, image?, get?_put]
    by_cases here : cell.1 = key
    · rw [if_pos here, here, new.found, Option.bind_some, Option.bind_some, new.images]
    · rw [if_neg here]
  housed := new.housed
  memory := h.memory ▸ new.memory

theorem Holds.replace_still (h : Holds w₀ m w) (new : w.Replaces key d d' p)
    (same : ∀ id, d'.memory p.contents id = d.memory w.platform.contents id) :
    Holds w₀ m (w.put key d' p) := by
  have held := h.replace new
  refine ⟨held.registry, held.badges, held.images, held.housed, held.memory.trans ?_⟩
  funext (k, id)
  by_cases here : k = key
  · simp only [here, if_true, same, h.cell new.found]
  · simp only [here, if_false]

/-- One allocation may hold other bytes, or come or go. -/
theorem Holds.replace_cell (h : Holds w₀ m w) (new : w.Replaces key d d' p) {id : UInt32}
    {bytes : Option Bytes}
    (changed : ∀ other, d'.memory p.contents other =
      if other = id then bytes else d.memory w.platform.contents other) :
    Holds w₀ (Function.update m (key, id) bytes) (w.put key d' p) := by
  have held := h.replace new
  refine ⟨held.registry, held.badges, held.images, held.housed, held.memory.trans ?_⟩
  funext (k, other)
  by_cases here : k = key
  · simp only [here, if_true, changed, h.cell new.found, Function.update_apply, Prod.mk.injEq,
      true_and]
  · simp only [here, if_false, Function.update_apply, Prod.mk.injEq, false_and]

/-! ## What leaves memory as it is -/

/-- Whatever the world held, it holds still. -/
def Still (w w' : World) : Prop := ∀ w₀ m, Holds w₀ m w → Holds w₀ m w'

instance : Evolution Still where
  refl _ _ _ h := h
  trans first second w₀ m h := second w₀ m (first w₀ m h)

theorem Holds.gpu_still (h : Holds w₀ m w) {g : Gpu} {s : Live Gpu}
    (found : w.devices.get? key = some (.gpu g)) (step : Gpu.Still ⟨w.platform, g⟩ s) :
    Holds w₀ m (w.put key (.gpu s.device) s.platform) := by
  have old (k : DeviceKey) (g : Gpu) (id : UInt32) (a : BufferAllocation)
      (found : w.devices.get? k = some (.gpu g)) (lives : g.buffers.get? id = some a) :
      s.platform.contents.of a.buffer = w.platform.contents.of a.buffer :=
    step.platform.old a.buffer ((h.housed.each found).stored_of lives)
  refine h.replace_still (.gpu h.housed found step.rehoused step.images ?_) fun id => ?_
  · exact fun k g id a _ => old k g id a
  · exact Device.memory_congr (by rw [step.buffers]) fun a => old key g id a found

theorem still_onDevice (key : DeviceKey) {host : Action Host α} {gpu : Action (Live Gpu) α}
    {remote : Action (Live Remote) α} (onHost : host.Evolves Eq) (onGpu : gpu.Evolves Gpu.Still)
    (onRemote : remote.Evolves Remote.Listens) : (onDevice key host gpu remote).Evolves Still := by
  refine evolves_onDevice onHost onGpu onRemote ?_ ?_ ?_
  · rintro w host _ found rfl w₀ m h
    exact h.replace_still (.other h.housed found rfl rfl rfl) fun _ => rfl
  · exact fun w g s found step w₀ m h => h.gpu_still found step
  · rintro w remote s found ⟨device, contents⟩ w₀ m h
    rw [device]
    refine h.replace_still (.other h.housed found rfl rfl contents) fun _ => ?_
    rw [contents]

theorem still_waiting (key : DeviceKey) (call : RemoteCall) {gpu : Action (Live Gpu) Unit}
    (still : gpu.Evolves Gpu.Still) :
    (onDevice key (pure ()) gpu (Remote.receive call)).Evolves Still :=
  still_onDevice key (.pure _) still (Remote.listens_receive call)

theorem still_syncRead (key : DeviceKey) (range : Range) (other : DeviceKey) :
    (syncRead key range other).Evolves Still :=
  evolves_syncRead (fun key call => still_waiting key call (Gpu.framed_wait none))
    (fun key call => still_waiting key call (.pure _)) key range other

theorem still_readRange (key : DeviceKey) (range : Range) :
    (readRange key range).Evolves Still :=
  still_onDevice key (Host.evolves_readRange range) (Gpu.still_readRange range)
    (Remote.listens_readRange range)

end World

/-! ## Reading and writing, by the kind of the device -/

/-- What an allocation holds in a range are these bytes, as many as the range is long. -/
def Range.Shows (range : Range) (block : Option Bytes) (bytes : Bytes) : Prop :=
  block.map (·.slice range.start.offset.toNat range.length.toNat) = some bytes ∧
    bytes.length = range.length.toNat

theorem Range.shows_slice (range : Range) {held : Storage}
    (inside : range.start.offset.toNat + range.length.toNat ≤ held.size) :
    range.Shows (some held.toBytes)
      (held.slice range.start.offset.toNat range.length.toNat).toBytes := by
  refine ⟨?_, (Storage.length_toBytes _).trans (Storage.size_slice inside)⟩
  rw [Option.map_some, Storage.toBytes_slice]

namespace Host

theorem wp_readRange (h : Host) (c : Contents) (range : Range) :
    (readRange range).wp
      (fun data _ => range.Shows (Device.memory c (.host h) range.start.allocId) data.toBytes)
      (fun _ _ => True) h := by
  rw [readRange, wp_bind]
  refine (wp_block _ h).ok ?_
  rintro b t ⟨rfl, -, found⟩
  have found : t.blocks.get? range.start.allocId = some b := found
  simp only [wp_bind, wp_checked, wp_pure, implies_true, and_true]
  intro _ span
  rw [Device.memory, congrArg (Option.map (·.bytes.toBytes)) found]
  exact range.shows_slice (checkSpan_eq_ok span)

theorem wp_writeRange (h : Host) (dst : Pointer) (data : Storage) :
    (writeRange dst data).wp
      (fun _ t => ∃ b, h.blocks.get? dst.allocId = some b ∧
        dst.offset.toNat + data.size ≤ b.bytes.size ∧
        t = { h with
          blocks := h.blocks.insert dst.allocId
            { b with bytes := b.bytes.splice dst.offset.toNat data } })
      (fun _ _ => True) h := by
  rw [writeRange, wp_bind]
  refine (wp_block _ h).ok ?_
  rintro b _ ⟨rfl, -, found⟩
  simp only [putBlock, wp_bind, wp_checked, wp_modify, implies_true, and_true]
  exact fun _ span => ⟨b, found, checkSpan_eq_ok span, rfl⟩

theorem wp_deallocate (alloc : Allocation) (h : Host) :
    (deallocate alloc).wp (fun _ t => t = { h with blocks := h.blocks.erase alloc.id })
      (fun _ _ => True) h := by
  rw [deallocate, wp_bind, wp_discard]
  refine (wp_block alloc h).ok ?_
  rintro b _ ⟨rfl, -⟩
  rfl

end Host

namespace Remote

theorem window?_eq_ok {r : Remote} {start : Pointer} {length : Nat} {bytes : Storage}
    (h : r.window? start length = .ok bytes) :
    r.allocations.get? start.allocId = some bytes ∧ start.offset.toNat + length ≤ bytes.size := by
  unfold window? at h
  split at h
  · cases h
  · rename_i found
    split at h
    · rename_i inside
      cases h
      exact ⟨found, inside⟩
    · cases h

/-- Adding to the bytes in ranges leaves everything else about the device as it is. -/
theorem foldl_addToRange (amount : UInt8) (ranges : List (Int × Range)) (r : Remote) :
    ∃ allocations,
      ranges.foldl (fun r e => r.addToRange amount e.2) r = { r with allocations } := by
  induction ranges generalizing r with
  | nil => exact ⟨r.allocations, rfl⟩
  | cons e rest ih =>
    obtain ⟨allocations, added⟩ := ih (r.addToRange amount e.2)
    refine ⟨allocations, added.trans ?_⟩
    unfold addToRange
    split <;> rfl

theorem wp_readRange (s : Live Remote) (c : Contents) (range : Range) :
    (readRange range).wp
      (fun data _ => range.Shows (Device.memory c (.remote s.device) range.start.allocId)
        data.toBytes)
      (fun _ _ => True) s := by
  rw [readRange, wp_bind]
  refine (listens_receive _ s).ok ?_
  rintro _ t ⟨device, -⟩
  simp only [wp_bind, Live.wp_self, wp_checked, wp_pure, implies_true, and_true]
  intro bytes window
  rw [device] at window
  obtain ⟨found, inside⟩ := window?_eq_ok window
  rw [Device.memory, congrArg (Option.map (·.toBytes)) found]
  exact range.shows_slice inside

theorem wp_writeRange (s : Live Remote) (dst : Pointer) (data : Storage) :
    (writeRange dst data).wp
      (fun _ t => t.platform.contents = s.platform.contents ∧
        ∃ bytes, s.device.allocations.get? dst.allocId = some bytes ∧
          dst.offset.toNat + data.size ≤ bytes.size ∧
          t.device = s.device.putBytes dst.allocId (bytes.splice dst.offset.toNat data))
      (fun _ _ => True) s := by
  rw [writeRange, wp_bind]
  refine (listens_receive _ s).ok ?_
  rintro _ t ⟨device, contents⟩
  simp only [wp_bind, Live.wp_self, wp_checked, Live.wp_update, device, implies_true, and_true]
  intro bytes window
  obtain ⟨found, inside⟩ := window?_eq_ok window
  exact ⟨contents, bytes, found, inside, rfl⟩

theorem wp_deallocate (alloc : Allocation) (s : Live Remote) :
    (deallocate alloc).wp
      (fun _ t => t.platform.contents = s.platform.contents ∧
        t.device = { s.device with allocations := s.device.allocations.erase alloc.id })
      (fun _ _ => True) s := by
  rw [deallocate, wp_bind]
  refine (listens_receive _ s).ok ?_
  rintro _ t ⟨device, contents⟩
  rw [Live.wp_update, device]
  exact ⟨contents, rfl⟩

end Remote

namespace Gpu

theorem wp_checkedRange (pointer : Pointer) (size : UInt64) (s : Live Gpu) :
    (checkedRange pointer size).wp
      (fun found t => t = s ∧ pointer.device = s.device.id ∧
        ∃ a, s.device.buffers.get? pointer.allocId = some a ∧
          found = (a.buffer, resolveSize pointer.offset size a.size) ∧
          pointer.offset.toNat + resolveSize pointer.offset size a.size ≤ a.size)
      (fun _ _ => True) s := by
  simp only [checkedRange, resolve, checkLocal, allocation, wp_bind, Live.wp_self, wp_require,
    wp_orRefuse, wp_pure, decide_eq_true_eq, implies_true, and_true, true_and]
  exact fun here a found inside => ⟨here, a, found, rfl, inside⟩

theorem wp_readRange {s : Live Gpu} (housed : Housed s) {range : Range}
    (sized : range.length ≠ wholeSize) :
    (readRange range).wp
      (fun data _ => range.device = s.device.id ∧
        range.Shows (Device.memory s.platform.contents (.gpu s.device) range.start.allocId)
          data.toBytes)
      (fun _ _ => True) s := by
  rw [readRange, wp_bind]
  refine (wp_checkedRange _ _ s).ok ?_
  rintro _ _ ⟨rfl, here, a, found, rfl, inside⟩
  rw [resolveSize_of_ne sized] at inside ⊢
  rw [Live.wp_onPlatform]
  refine (Platform.wp_readBuffer (housed.stored_of found) _ _).ok ?_
  rintro data _ ⟨bytes, size⟩
  refine ⟨here, ?_, (Storage.length_toBytes _).trans size⟩
  rw [Device.memory, found, Option.map_some, Option.map_some, BufferAllocation.bytes,
    Bytes.slice_take inside, bytes]

theorem wp_writeRange {s : Live Gpu} (housed : Housed s) {dst : Pointer} {data : Storage}
    (sized : data.size < maxWord) :
    (writeRange dst data).wp
      (fun _ t => t.device = s.device ∧ ∃ a, s.device.buffers.get? dst.allocId = some a ∧
        dst.offset.toNat + data.size ≤ a.size ∧
        (data.size = 0 ∨ dst.offset.toNat + data.size ≤ s.platform.bufferSize a.buffer) ∧
        s.platform.Rewritten a.buffer
          ((s.platform.contents.of a.buffer).toBytes.splice dst.offset.toNat data.toBytes)
          t.platform)
      (fun _ _ => True) s := by
  have word : (UInt64.ofNat data.size).toNat = data.size :=
    UInt64.toNat_ofNat_of_lt (Nat.lt_of_lt_of_le sized (by decide))
  -- The length of the data is not taken for the size that stands for the rest.
  have notWhole : UInt64.ofNat data.size ≠ wholeSize := by
    intro same
    rw [same] at word
    exact absurd sized (by rw [← word]; decide)
  rw [writeRange, wp_bind]
  refine (wp_checkedRange _ _ s).ok ?_
  rintro _ _ ⟨rfl, -, a, found, rfl, inside⟩
  rw [resolveSize_of_ne notWhole, word] at inside
  rw [Live.wp_onPlatform]
  refine ((Platform.wp_writeBuffer (housed.stored_of found) _ _).and
    (Platform.writeBuffer_fits _ _ _ _)).ok ?_
  exact fun _ _ ⟨written, fits⟩ => ⟨rfl, a, found, inside, fits, written⟩

/-- The longest size of all cannot be allocated. -/
theorem ne_wholeSize_of_nativeSize {size : UInt64} {n : Nat} (fits : nativeSize size = .ok n) :
    size ≠ wholeSize := by
  rintro rfl
  obtain ⟨least, -, aligned, most⟩ := alignUp_eq_ok fits
  have size : n = maxWord := by
    have whole : maxWord ≤ max wholeSize.toNat copyAlignment := by decide
    omega
  rw [size] at aligned
  exact absurd aligned (by decide)

theorem le_nativeSize {size : UInt64} {n : Nat} (fits : nativeSize size = .ok n) :
    size.toNat ≤ n :=
  Nat.le_trans (Nat.le_max_left _ _) (alignUp_eq_ok fits).1

/-- A copy within a graphics processor that is asked for a range of another device does nothing. -/
theorem wp_copyWithin {dst : Pointer} {src : Range} (apart : dst.device ≠ src.device)
    (s : Live Gpu) :
    (copyWithin dst src).wp (fun copied t => copied = false ∧ t = s ∧ dst.device = s.device.id)
      (fun _ _ => True) s := by
  simp only [copyWithin, checkLocal, wp_bind, Live.wp_self, wp_require, decide_eq_true_eq, wp_ite,
    wp_pure, implies_true, and_true, true_and, ne_eq, Decidable.not_not]
  exact fun here => ⟨fun _ => here, fun same => absurd (here.trans same.symm) apart⟩

end Gpu

namespace World

variable {w₀ w : World} {m : Memory} {key : DeviceKey}

/-- The device behind a key is a graphics processor, with that id. -/
def IsGpu (w : World) (key : DeviceKey) (id : DeviceId) : Prop :=
  (w.devices.get? key).map Device.badge = some (true, id)

theorem Holds.isGpu_iff (h : Holds w₀ m w) {id : DeviceId} : w₀.IsGpu key id ↔ w.IsGpu key id := by
  rw [IsGpu, IsGpu, h.badges]

theorem IsGpu.badge_eq {id : DeviceId} {d : Device} (isGpu : w.IsGpu key id)
    (found : w.devices.get? key = some d) : d.badge = (true, id) := by
  rw [IsGpu, found] at isGpu
  exact Option.some.inj isGpu

theorem IsGpu.gpu {id : DeviceId} (isGpu : w.IsGpu key id) :
    ∃ g, w.devices.get? key = some (.gpu g) ∧ g.id = id := by
  cases found : w.devices.get? key with
  | none =>
    rw [IsGpu, found] at isGpu
    cases isGpu
  | some d =>
    have badge := isGpu.badge_eq found
    cases d with
    | host | remote => cases badge
    | gpu g => exact ⟨g, rfl, (Prod.mk.inj badge).2⟩

/-- What was read is what the device held there. A graphics processor reads only what is its own. -/
theorem holds_readRange (h : Holds w₀ m w) (key : DeviceKey) {range : Range}
    (sized : range.length ≠ wholeSize) :
    (readRange key range).wp
      (fun data t => Holds w₀ m t ∧ range.Shows (m (key, range.start.allocId)) data.toBytes ∧
        ∀ id, w₀.IsGpu key id → range.device = id)
      (fun _ _ => True) w := by
  -- Reading leaves the world as it is; what is left to say is what was read.
  have read : (readRange key range).wp
      (fun data _ => range.Shows (m (key, range.start.allocId)) data.toBytes ∧
        ∀ id, w.IsGpu key id → range.device = id)
      (fun _ _ => True) w := by
    rw [readRange, wp_onDevice]
    cases found : w.devices.get? key with
    | none => trivial
    | some d =>
      rw [h.cell found]
      cases d with
      | host host =>
        refine (Host.wp_readRange host _ range).ok fun data _ shows => ⟨shows, fun id isGpu => ?_⟩
        cases isGpu.badge_eq found
      | gpu g =>
        refine (Gpu.wp_readRange (h.housed.each found) sized).ok ?_
        rintro data _ ⟨here, shows⟩
        exact ⟨shows, fun id isGpu => here.trans (Prod.mk.inj (isGpu.badge_eq found)).2⟩
      | remote remote =>
        refine (Remote.wp_readRange ⟨_, remote⟩ _ range).ok fun data _ shows =>
          ⟨shows, fun id isGpu => ?_⟩
        cases isGpu.badge_eq found
  refine ((still_readRange key range w).and read).ok ?_
  rintro data t ⟨still, shows, own⟩
  exact ⟨still w₀ m h, shows, fun id isGpu => own id (h.isGpu_iff.1 isGpu)⟩

/-- Where the bytes of one native buffer are others, so are those of the one allocation in it. -/
theorem Holds.gpu_written (h : Holds w₀ m w) {g : Gpu} {p : Platform} {id : UInt32}
    {a : BufferAllocation} {offset : Nat} {data : Bytes}
    (found : w.devices.get? key = some (.gpu g)) (held : g.buffers.get? id = some a)
    (fits : offset + data.length ≤ a.size)
    (written : w.platform.Rewritten a.buffer
      ((w.platform.contents.of a.buffer).toBytes.splice offset data) p) :
    Holds w₀ (Function.update m (key, id)
      (some ((a.bytes w.platform.contents).splice offset data))) (w.put key (.gpu g) p) := by
  have room := Gpu.room?_of_found held
  have step : Gpu.KeepsRooms ⟨w.platform, g⟩ ⟨p, g⟩ := ⟨rfl, written.grows, rfl, UInt32.le_refl _⟩
  refine h.replace_cell (.gpu h.housed found step.rehoused rfl ?_) fun other => ?_
  · -- No other allocation lives in that buffer, neither on another device nor on this one.
    intro k g' id' a' there found' held'
    have room' := Gpu.room?_of_found held'
    refine written.others a'.buffer ((h.housed.each found').stored room') fun same => there ?_
    exact h.housed.apart found' found (same ▸ room') room
  · by_cases here : other = id
    · rw [if_pos here, here, Device.memory, held, Option.map_some, BufferAllocation.bytes,
        written.patched, Bytes.take_splice fits, BufferAllocation.bytes]
    · rw [if_neg here]
      refine Device.memory_congr rfl fun a' held' => ?_
      have room' := Gpu.room?_of_found held'
      refine written.others a'.buffer ((h.housed.each found).stored room') fun same => here ?_
      exact (h.housed.each found).apart (same ▸ room') room

/-- A write replaces just the bytes that it writes. -/
theorem holds_writeRange (h : Holds w₀ m w) (key : DeviceKey) (dst : Pointer) {data : Storage}
    (sized : data.size < maxWord) :
    (writeRange key dst data).wp
      (fun _ t => ∃ block, m (key, dst.allocId) = some block ∧
        Holds w₀ (Function.update m (key, dst.allocId)
          (some (block.splice dst.offset.toNat data.toBytes))) t ∧
        (block.splice dst.offset.toNat data.toBytes).slice dst.offset.toNat data.toBytes.length =
          data.toBytes)
      (fun _ _ => True) w := by
  have lands {held : Storage} (fits : dst.offset.toNat + data.size ≤ held.size) :
      (held.toBytes.splice dst.offset.toNat data.toBytes).slice dst.offset.toNat
        data.toBytes.length = data.toBytes :=
    Bytes.slice_splice_self (by rwa [Storage.length_toBytes, Storage.length_toBytes])
  rw [writeRange, wp_onDevice]
  cases found : w.devices.get? key with
  | none => trivial
  | some d =>
    rw [h.cell found]
    cases d with
    | host host =>
      refine (Host.wp_writeRange host dst data).ok ?_
      rintro _ _ ⟨b, held, fits, rfl⟩
      refine ⟨b.bytes.toBytes, congrArg (Option.map _) held, ?_, lands fits⟩
      refine h.replace_cell (.other h.housed found rfl ?_ rfl) fun other => ?_
      · rfl
      · simp only [Device.memory, SortedMap.get?_insert, Ranked.rank_eq_iff]
        split
        · rw [Option.map_some, Storage.toBytes_splice]
        · rfl
    | gpu g =>
      refine (Gpu.wp_writeRange (h.housed.each found) sized).ok ?_
      rintro _ t ⟨device, a, held, inside, stored, written⟩
      refine ⟨a.bytes w.platform.contents, congrArg (Option.map _) held, ?_, ?_⟩
      · rw [device]
        have fits : dst.offset.toNat + data.toBytes.length ≤ a.size := by
          rwa [Storage.length_toBytes]
        exact h.gpu_written found held fits written
      · rcases stored with empty | fits
        · have none : data.toBytes = [] :=
            List.eq_nil_of_length_eq_zero ((Storage.length_toBytes data).trans empty)
          rw [none]
          exact List.take_zero ..
        · refine Bytes.slice_splice_self ?_
          rw [Storage.length_toBytes, BufferAllocation.bytes, List.length_take,
            Storage.length_toBytes]
          exact Nat.le_min.2 ⟨inside, fits⟩
    | remote remote =>
      refine (Remote.wp_writeRange ⟨_, remote⟩ dst data).ok ?_
      rintro _ t ⟨contents, bytes, held, fits, device⟩
      refine ⟨bytes.toBytes, congrArg (Option.map _) held, ?_, lands fits⟩
      rw [device]
      refine h.replace_cell (.other h.housed found rfl ?_ contents) fun other => ?_
      · rfl
      · simp only [Device.memory, Remote.putBytes, SortedMap.get?_insert, Ranked.rank_eq_iff]
        split
        · rw [Option.map_some, Storage.toBytes_splice]
        · rfl

theorem put_self {d : Device} (found : w.devices.get? key = some d) :
    w.put key d w.platform = w := by
  rw [put, SortedMap.insert_eq_self found]

theorem holds_stage (h : Holds w₀ m w) (key : DeviceKey) (dst : Pointer) {src : Range}
    (source : DeviceKey) (sized : src.length ≠ wholeSize) :
    (stage key dst src source).wp
      (fun _ t => ∃ bytes block, src.Shows (m (source, src.start.allocId)) bytes ∧
        (∀ id, w₀.IsGpu source id → src.device = id) ∧ m (key, dst.allocId) = some block ∧
        Holds w₀ (Function.update m (key, dst.allocId)
          (some (block.splice dst.offset.toNat bytes))) t ∧
        (block.splice dst.offset.toNat bytes).slice dst.offset.toNat bytes.length = bytes)
      (fun _ _ => True) w := by
  rw [stage, wp_bind]
  refine (holds_readRange h source sized).ok ?_
  rintro data t ⟨h, shows, own⟩
  have short : data.size < maxWord := by
    have size := shows.2
    rw [Storage.length_toBytes] at size
    have notMost : src.length.toNat ≠ maxWord := fun same => sized (UInt64.toNat_inj.1 same)
    have less : src.length.toNat < maxWord + 1 := src.length.toNat_lt
    omega
  refine (holds_writeRange h key _ short).ok ?_
  rintro - t ⟨block, held, h, lands⟩
  exact ⟨data.toBytes, block, shows, own, held, h, lands⟩

/-- Between devices a copy goes through the host. It goes to the device that is asked for it. -/
theorem holds_transfer (h : Holds w₀ m w) (key : DeviceKey) {dst : Pointer} {src : Range}
    (source : DeviceKey) (apart : dst.device ≠ src.device) (sized : src.length ≠ wholeSize) :
    (transfer key dst src source).wp
      (fun _ t => ∃ bytes block, src.Shows (m (source, src.start.allocId)) bytes ∧
        (∀ id, w₀.IsGpu source id → src.device = id) ∧ m (key, dst.allocId) = some block ∧
        Holds w₀ (Function.update m (key, dst.allocId)
          (some (block.splice dst.offset.toNat bytes))) t ∧
        (block.splice dst.offset.toNat bytes).slice dst.offset.toNat bytes.length = bytes ∧
        (w₀.devices.get? key).map Device.id = some dst.device)
      (fun _ _ => True) w := by
  simp only [transfer, device, wp_bind, wp_get, wp_orRefuse, implies_true, and_true]
  intro d found
  have known (home : dst.device = d.id) :
      (w₀.devices.get? key).map Device.id = some dst.device := by
    rw [← h.ids, found, Option.map_some, home]
  have staged := holds_stage h key dst source sized
  cases d with
  | host | remote =>
    simp only [wp_bind, wp_require, decide_eq_true_eq, implies_true, and_true]
    refine fun home => staged.ok ?_
    rintro _ t ⟨bytes, block, shows, own, held, h, lands⟩
    exact ⟨bytes, block, shows, own, held, h, lands, known home⟩
  | gpu g =>
    simp only [wp_bind, onGpu, wp_onDevice, found]
    refine (Gpu.wp_copyWithin apart _).ok ?_
    rintro _ _ ⟨rfl, rfl, home⟩
    rw [put_self found]
    refine staged.ok ?_
    rintro _ t ⟨bytes, block, shows, own, held, h, lands⟩
    exact ⟨bytes, block, shows, own, held, h, lands, known home⟩

/-- Scratch memory is new, and not as long as anything can be. -/
theorem holds_allocate (h : Holds w₀ m w) {id : DeviceId} (isGpu : w₀.IsGpu key id)
    (length : UInt64) :
    (allocate key (.deviceLocal length)).wp
      (fun alloc t => alloc.device = id ∧ length ≠ wholeSize ∧ m (key, alloc.id) = none ∧
        Holds w₀ (Function.update m (key, alloc.id) (some (Bytes.zeros length.toNat))) t)
      (fun _ _ => True) w := by
  obtain ⟨g, found, rfl⟩ := (h.isGpu_iff.1 isGpu).gpu
  rw [allocate, wp_onDevice, found]
  refine (Gpu.wp_allocate _ ⟨w.platform, g⟩).ok ?_
  intro alloc s made
  obtain ⟨size, fits, -, contents⟩ := made.contents
  obtain ⟨buffer, new, -, buffers⟩ := made.buffers
  have housed := h.housed.each found
  have old {b : Buffer} (known : b.id < w.platform.contents.length) :
      s.platform.contents.of b = w.platform.contents.of b := by
    rw [contents, Contents.of_append known]
  -- Live allocations have lower ids than the next one.
  have vacant : g.buffers.get? g.nextAlloc = none := by
    cases taken : g.buffers.get? g.nextAlloc with
    | none => rfl
    | some a => exact absurd (housed.numbered (Gpu.room?_of_found taken)) (UInt32.lt_irrefl _)
  rw [made.alloc_eq]
  refine ⟨rfl, Gpu.ne_wholeSize_of_nativeSize fits, ?_, ?_⟩
  · rw [h.cell found, Device.memory, vacant]
    rfl
  · refine h.replace_cell (.gpu h.housed found made.rehoused made.images ?_) fun other => ?_
    · exact fun k g' id a there found' held => old ((h.housed.each found').stored_of held)
    · by_cases here : other = g.nextAlloc
      · -- The native buffer is as long at least, so these are as many zeros as were asked for.
        rw [if_pos here, here, Device.memory, buffers, SortedMap.get?_insert_self, Option.map_some]
        have room : length.toNat ≤ size := Gpu.le_nativeSize fits
        rw [BufferAllocation.bytes, contents, Contents.of_append_new new, Storage.toBytes_zeros,
          Bytes.zeros, List.take_replicate]
        exact congrArg (some <| List.replicate · 0) (Nat.min_eq_left room)
      · rw [if_neg here]
        refine Device.memory_congr ?_ fun a held => old (housed.stored_of held)
        rw [buffers, SortedMap.get?_insert_of_ne _ _ here]

theorem holds_deallocate (h : Holds w₀ m w) (key : DeviceKey) (alloc : Allocation) :
    (deallocate key alloc).wp
      (fun _ t => Holds w₀ (Function.update m (key, alloc.id) none) t) (fun _ _ => True) w := by
  rw [deallocate, wp_onDevice]
  cases found : w.devices.get? key with
  | none => trivial
  | some d =>
    cases d with
    | host host =>
      refine (Host.wp_deallocate alloc host).ok ?_
      rintro _ _ rfl
      refine h.replace_cell (.other h.housed found rfl ?_ rfl) fun other => ?_
      · rfl
      · simp only [Device.memory, SortedMap.get?_erase, Ranked.rank_eq_iff]
        split <;> rfl
    | gpu g =>
      refine ((Gpu.wp_deallocate alloc ⟨w.platform, g⟩).and
        (Gpu.rehoused_deallocate alloc ⟨w.platform, g⟩)).ok ?_
      rintro _ _ ⟨⟨-, -, rfl⟩, step⟩
      refine h.replace_cell (.gpu h.housed found step rfl fun _ _ _ _ _ _ _ => rfl) fun other => ?_
      simp only [Device.memory, SortedMap.get?_erase, Ranked.rank_eq_iff]
      split <;> rfl
    | remote remote =>
      refine (Remote.wp_deallocate alloc ⟨w.platform, remote⟩).ok ?_
      rintro _ t ⟨contents, device⟩
      rw [device]
      refine h.replace_cell (.other h.housed found rfl ?_ contents) fun other => ?_
      · rfl
      · simp only [Device.memory, SortedMap.get?_erase, Ranked.rank_eq_iff]
        split <;> rfl

/-- Kernels move no bytes. -/
theorem holds_launchLocal (h : Holds w₀ m w) {id : DeviceId} (isGpu : w₀.IsGpu key id)
    (stream kernel : UInt32) (mapping : Mapping) :
    (launchLocal key stream kernel mapping).wp (fun _ t => Holds w₀ m t) (fun _ _ => True) w := by
  obtain ⟨g, found, -⟩ := (h.isGpu_iff.1 isGpu).gpu
  rw [launchLocal, wp_onDevice, found]
  refine (Gpu.still_launchLocal stream kernel mapping _).ok ?_
  exact fun _ s step => h.gpu_still found step

theorem holds_localAlias (h : Holds w₀ m w) {id : DeviceId} (isGpu : w₀.IsGpu key id)
    (range : Range) :
    (localAlias key range).wp (fun seen t => seen = none ∧ Holds w₀ m t) (fun _ _ => True) w := by
  obtain ⟨g, found, -⟩ := (h.isGpu_iff.1 isGpu).gpu
  simp only [localAlias, device, wp_bind, wp_get, found, wp_orRefuse_some, wp_pure]
  exact ⟨trivial, h⟩

theorem holds_find (h : Holds w₀ m w) (id : DeviceId) :
    (find id).wp (fun source t => w₀.registry.find? id = some source ∧ Holds w₀ m t)
      (fun _ _ => True) w := by
  simp only [find, wp_bind, wp_get, wp_orRefuse, h.registry, implies_true, and_true]
  exact fun source known => ⟨known, h⟩

end World

end DeviceLayer
