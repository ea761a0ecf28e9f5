import DeviceLayer.Proofs.MemoryFailures
import DeviceLayer.Proofs.Placements
import DeviceLayer.Proofs.Simulation

/-!
# Devices that stand for blocks

The allocations of a device are the blocks that are live, in the native buffers that these lie in.
Unlike a device that stands for a store, it may fail to answer: a mapping that was lost by a failed
copy is still there in plain memory, until the host maps the allocation again.

* `Gpu.Stands` — a device stands for blocks in native buffers.
* `Gpu.MemoryStill` — what leaves allocations and native buffers as they are.
* `Gpu.Follows` — the device has gone on to stand for other blocks, which lie where they did.
* `DeviceCall.memoryStill`, `MemoryCall.follows` — what device calls do to the blocks.
-/

namespace DeviceLayer

open DeviceLayer.Action

/-- The allocation is a block that is live. Where it is mapped, the host has the same copy. -/
structure BufferAllocation.Backs (a : BufferAllocation) (b : KeptBlock) : Prop where
  live : b.live = true
  params : b.params = a.params
  length : b.bytes.length = a.size
  mapped : ∀ m, a.mapping = some m → b.copy = some m.copy ∧ m.offset + m.shadow.size ≤ a.size

theorem KeptBlock.unmapped_of_some {b : KeptBlock} {copy : HostCopy} (copied : b.copy = some copy) :
    b.unmapped = { b with
      bytes := if b.params.hostWrite then b.bytes.splice copy.offset copy.bytes else b.bytes
      copy := none } := by
  rw [unmapped, copied]

namespace Gpu

/-- The allocations of a device are the blocks that are live. -/
structure Stands (s : Live Gpu) (q : Placement) : Prop where
  sound : q.Sound
  contents : q.contents = s.platform.contents
  numbered : ∀ {id b}, q.blocks id = some b → id < s.device.nextAlloc
  backs : ∀ {id a}, s.device.buffers.get? id = some a →
    ∃ b, q.blocks id = some b ∧ q.room id = a.buffer ∧ a.Backs b
  lives : ∀ {id b}, q.blocks id = some b → b.live = true →
    ∃ a, s.device.buffers.get? id = some a

def Follows (m : Blocks) (q : Placement) (t : Live Gpu) : Prop :=
  ∃ q', Stands t q' ∧ q'.blocks = m ∧ q.Carries q'

variable {s t : Live Gpu} {q : Placement} {id : UInt32} {a a' : BufferAllocation}
  {b b' : KeptBlock}

/-- What the device holds is what is live in plain memory. -/
theorem Stands.memory (h : Stands s q) (id : UInt32) :
    Device.memory s.platform.contents (.gpu s.device) id = q.blocks.memory id := by
  rw [Device.memory, Blocks.memory]
  cases held : s.device.buffers.get? id with
  | some a =>
    obtain ⟨b, found, room, backs⟩ := h.backs held
    have lies := h.sound.held found
    rw [KeptBlock.LiesIn, room, h.contents, backs.length] at lies
    rw [found, Option.filter_some, if_pos backs.live, Option.map_some, Option.map_some,
      BufferAllocation.bytes, lies]
  | none =>
    cases found : q.blocks id with
    | none => rfl
    | some b =>
      cases live : b.live with
      | false => simp [Option.filter_some, live]
      | true =>
        obtain ⟨a, held'⟩ := h.lives found live
        cases held.symm.trans held'

theorem Stands.housed (h : Stands s q) : Housed s := by
  have room {id : UInt32} {n : Nat} (lives : s.device.room? id = some n) :
      ∃ b, q.blocks id = some b ∧ (q.room id).id = n := by
    obtain ⟨a, held, rfl⟩ := Option.map_eq_some_iff.1 lives
    obtain ⟨b, found, room, -⟩ := h.backs held
    exact ⟨b, found, congrArg Buffer.id room⟩
  refine ⟨fun lives => ?_, fun lives => ?_, fun lives lives' => ?_⟩
  · obtain ⟨_, found, -⟩ := room lives
    exact h.numbered found
  · obtain ⟨_, found, rfl⟩ := room lives
    rw [← h.contents]
    exact h.sound.stored found
  · obtain ⟨_, found, same⟩ := room lives
    obtain ⟨_, found', same'⟩ := room lives'
    exact h.sound.apart found found' (same.trans same'.symm)

/-! ## What leaves memory as it is -/

/-- Allocations and what native buffers hold stay as they are; images may come and go. -/
structure MemoryStill (s t : Live Gpu) : Prop where
  buffers : t.device.buffers = s.device.buffers
  nextAlloc : s.device.nextAlloc ≤ t.device.nextAlloc
  platform : s.platform.Extends t.platform

instance : Evolution MemoryStill where
  refl _ := ⟨rfl, UInt32.le_refl _, Evolution.refl _⟩
  trans first second :=
    ⟨second.buffers.trans first.buffers, UInt32.le_trans first.nextAlloc second.nextAlloc,
      Evolution.trans first.platform second.platform⟩

instance : Growing MemoryStill where
  grows h := ⟨rfl, UInt32.le_refl _, h.extends⟩

instance : ImageFrame MemoryStill where
  toFrame := .of fun h => ⟨h.buffers, h.nextAlloc, Evolution.refl _⟩
  images _ := ⟨rfl, UInt32.le_refl _, Evolution.refl _⟩

theorem Still.memoryStill (step : Still s t) : MemoryStill s t :=
  ⟨step.buffers, step.nextAlloc, step.platform⟩

theorem Untouched.memoryStill (step : Untouched s t) : MemoryStill s t :=
  ⟨congrArg Gpu.buffers step.device, UInt32.le_of_eq (congrArg Gpu.nextAlloc step.device.symm),
    step.platform⟩

theorem Stands.extended (h : Stands s q) (step : MemoryStill s t) :
    Stands t (q.on t.platform) ∧ q.Carries (q.on t.platform) := by
  obtain ⟨sound, carries⟩ := h.sound.extended h.contents step.platform
  refine ⟨⟨sound, rfl, fun found => ?_, fun held => ?_, fun found live => ?_⟩, carries⟩
  · exact UInt32.lt_of_lt_of_le (h.numbered found) step.nextAlloc
  · exact h.backs (step.buffers ▸ held)
  · rw [step.buffers]
    exact h.lives found live

theorem Stands.follows (h : Stands s q) (step : MemoryStill s t) : Follows q.blocks q t := by
  obtain ⟨stands, carries⟩ := h.extended step
  exact ⟨_, stands, rfl, carries⟩

/-! ## Memory calls -/

/-- One allocation and its block may change together, or the allocation go. -/
theorem Stands.replaced (h : Stands s q) (found : q.blocks id = some b)
    {a' : Option BufferAllocation} (nextAlloc : t.device.nextAlloc = s.device.nextAlloc)
    (buffers : ∀ other, t.device.buffers.get? other =
      if other = id then a' else s.device.buffers.get? other)
    (backs : ∀ a, a' = some a → q.room id = a.buffer ∧ a.Backs b')
    (lives : b'.live = true → ∃ a, a' = some a)
    (placed : (q.put id b' t.platform.contents).Sound ∧
      q.Carries (q.put id b' t.platform.contents)) :
    Follows (Function.update q.blocks id (some b')) q t := by
  refine ⟨_, ⟨placed.1, rfl, fun found' => ?_, fun {other a} held => ?_, fun found' live => ?_⟩,
    rfl, placed.2⟩
  · rw [nextAlloc]
    obtain ⟨rfl, -⟩ | ⟨-, found'⟩ := Placement.blocks_put_eq_some found'
    · exact h.numbered found
    · exact h.numbered found'
  · rw [buffers] at held
    split at held
    · rename_i here
      subst here
      exact ⟨b', Function.update_self .., backs a held⟩
    · rename_i there
      obtain ⟨b'', found'', rest⟩ := h.backs held
      exact ⟨b'', (Function.update_of_ne there _ _).trans found'', rest⟩
  · rw [buffers]
    obtain ⟨rfl, rfl⟩ | ⟨there, found'⟩ := Placement.blocks_put_eq_some found'
    · rw [if_pos rfl]
      exact lives live
    · rw [if_neg there]
      exact h.lives found' live

theorem Stands.put (h : Stands s q) (held : s.device.buffers.get? id = some a)
    (device : t.device = { s.device with buffers := s.device.buffers.insert id a' })
    (buffer : a'.buffer = a.buffer) (backs : a'.Backs b')
    (placed : (q.put id b' t.platform.contents).Sound ∧
      q.Carries (q.put id b' t.platform.contents)) :
    Follows (Function.update q.blocks id (some b')) q t := by
  obtain ⟨b, found, room, -⟩ := h.backs held
  refine h.replaced found (by rw [device]) (fun other => ?_) ?_ (fun _ => ⟨a', rfl⟩) placed
  · rw [device, SortedMap.get?_insert]
    simp only [Ranked.rank_eq_iff]
  · rintro _ ⟨⟩
    exact ⟨room.trans buffer.symm, backs⟩

theorem Stands.relabelled (h : Stands s q) (held : s.device.buffers.get? id = some a)
    (found : q.blocks id = some b)
    (device : t.device = { s.device with buffers := s.device.buffers.insert id a' })
    (buffer : a'.buffer = a.buffer) (backs : a'.Backs b') (bytes : b'.bytes = b.bytes)
    (grown : s.platform.Extends t.platform) :
    Follows (Function.update q.blocks id (some b')) q t :=
  h.put held device buffer backs (h.sound.relabelled found bytes h.contents grown)

theorem Stands.allocated (h : Stands s q) {params : AllocParams} {alloc : Allocation}
    (made : Allocated params alloc s t) :
    Follows (q.blocks.after (.allocate params) (.allocation alloc)) q t := by
  obtain ⟨size, fits, -, contents⟩ := made.contents
  obtain ⟨buffer, newest, -, buffers⟩ := made.buffers
  obtain rfl := made.alloc_eq
  -- Ids that were given out are below the next one.
  have new : q.blocks s.device.nextAlloc = none := by
    cases found : q.blocks s.device.nextAlloc with
    | none => rfl
    | some b => exact absurd (h.numbered found) (UInt32.lt_irrefl _)
  let b : KeptBlock := { params, bytes := .zeros params.size.toNat }
  have lies : b.LiesIn (.zeros size) := by
    have room : params.size.toNat ≤ size := le_nativeSize fits
    simp [KeptBlock.LiesIn, b, Bytes.zeros, room]
  obtain ⟨sound, carries⟩ := h.sound.added new (newest.trans (congrArg _ h.contents.symm)) lies
  refine ⟨_, ⟨sound, ?_, fun {id' b'} found => ?_, fun {id' a} held => ?_,
    fun {id' b'} found live => ?_⟩, rfl, carries⟩
  · rw [contents, ← h.contents]
    rfl
  · by_cases here : id' = s.device.nextAlloc
    · rw [here]
      exact made.nextAlloc
    · have found := (Function.update_of_ne here _ _).symm.trans found
      exact UInt32.lt_trans (h.numbered found) made.nextAlloc
  · rw [buffers] at held
    by_cases here : id' = s.device.nextAlloc
    · subst here
      rw [SortedMap.get?_insert_self] at held
      cases held
      refine ⟨b, Function.update_self .., Function.update_self .., rfl, rfl,
        Bytes.length_zeros _, ?_⟩
      rintro _ ⟨⟩
    · rw [SortedMap.get?_insert_of_ne _ _ here] at held
      obtain ⟨b', found, room, backs⟩ := h.backs held
      exact ⟨b', (Function.update_of_ne here _ _).trans found,
        (Function.update_of_ne here _ _).trans room, backs⟩
  · rw [buffers]
    by_cases here : id' = s.device.nextAlloc
    · rw [here]
      exact ⟨_, SortedMap.get?_insert_self ..⟩
    · obtain ⟨a, held⟩ := h.lives ((Function.update_of_ne here _ _).symm.trans found) live
      exact ⟨a, (SortedMap.get?_insert_of_ne _ _ here).trans held⟩

theorem Stands.deallocated (h : Stands s q) (held : s.device.buffers.get? id = some a) :
    Follows (q.blocks.alter id fun b => { b with live := false }) q
      { s with device.buffers := s.device.buffers.erase id } := by
  obtain ⟨b, found, -⟩ := h.backs held
  have erased (other : UInt32) : (s.device.buffers.erase id).get? other =
      if other = id then none else s.device.buffers.get? other := by
    rw [SortedMap.get?_erase]
    simp only [Ranked.rank_eq_iff]
  rw [Blocks.alter_of_some found]
  exact h.replaced found rfl erased (fun _ => nofun) nofun
    (h.sound.relabelled found (by rfl) h.contents (Evolution.refl _))

/-- What is mapped is a copy of the window, and lies inside the allocation. -/
theorem wp_mapRange (housed : Housed s) (p : Pointer) (size : UInt64) :
    (mapRange p size).wp
      (fun region t => p.device = s.device.id ∧ ∃ a shadow,
        s.device.buffers.get? p.allocId = some a ∧
        region = ⟨p.allocId, p.offset.toNat, resolveSize p.offset size a.size⟩ ∧
        p.offset.toNat + resolveSize p.offset size a.size ≤ a.size ∧
        shadow.toBytes = (s.platform.contents.of a.buffer).toBytes.slice p.offset.toNat
          (resolveSize p.offset size a.size) ∧
        shadow.size = resolveSize p.offset size a.size ∧
        t.device = { s.device with
          buffers := s.device.buffers.insert p.allocId
            { a with mapping := some ⟨p.offset.toNat, shadow⟩ } } ∧
        s.platform.Extends t.platform)
      (fun _ _ => True) s := by
  rw [mapRange, wp_bind]
  refine (wp_checkedRange _ _ s).ok ?_
  rintro _ _ ⟨rfl, here, a, held, rfl, inside⟩
  simp only [allocation, wp_bind, Live.wp_self, held, wp_orRefuse_some, wp_require,
    Live.wp_onPlatform, putBuffer, Live.wp_update, wp_pure, implies_true, and_true]
  intro _ _
  refine ((Platform.extends_readBuffer _ _ _ _).and
    (Platform.wp_readBuffer (housed.stored_of held) _ _)).ok ?_
  rintro shadow p ⟨grown, bytes, length⟩
  exact ⟨here, a, shadow, rfl, rfl, inside, bytes, length, rfl, grown⟩

theorem follows_mapRange (h : Stands s q) (p : Pointer) (size : UInt64) :
    (mapRange p size).wp (fun _ t => Follows (q.blocks.mapped p size) q t)
      (fun _ t => Follows q.blocks q t) s := by
  refine ((wp_mapRange h.housed p size).and (mapRange_spares p size s)).mono ?_ ?_
  · rintro _ t ⟨⟨-, a, shadow, held, -, inside, bytes, length, device, grown⟩, -⟩
    obtain ⟨b, found, room, backs⟩ := h.backs held
    -- A block is as long as its allocation, so both mean the same window.
    have requested : q.blocks.requested p size = resolveSize p.offset size a.size := by
      rw [Blocks.requested, Blocks.bytes_of_some found, backs.length]
    have lies := h.sound.held found
    rw [Blocks.mapped, Blocks.alter_of_some found, requested]
    refine h.relabelled held found device rfl ⟨backs.live, backs.params, backs.length, ?_⟩ (by rfl)
      grown
    rintro _ ⟨⟩
    rw [KeptBlock.LiesIn, room, h.contents, backs.length] at lies
    refine ⟨?_, by rwa [length]⟩
    rw [KeptBlock.mapped, HostMapping.copy, bytes, ← lies, Bytes.slice_take inside]
  · rintro e t ⟨-, same⟩
    exact h.follows same.memoryStill

/-- What the host may write is written back; the mapping is over in any case. -/
theorem wp_unmap (housed : Housed s) (alloc : Allocation) :
    (unmap alloc).wp
      (fun _ t => ∃ a m, s.device.buffers.get? alloc.id = some a ∧ a.mapping = some m ∧
        t.device = { s.device with
          buffers := s.device.buffers.insert alloc.id { a with mapping := none } } ∧
        (a.params.hostWrite = true → s.platform.Rewritten a.buffer
          ((s.platform.contents.of a.buffer).toBytes.splice m.offset m.shadow.toBytes)
          t.platform) ∧
        (a.params.hostWrite = false → t.platform = s.platform))
      (fun _ _ => True) s := by
  simp only [unmap, resolve, checkLocal, allocation, wp_bind, Live.wp_self, wp_require, wp_orRefuse,
    putBuffer, Live.wp_update, implies_true, and_true]
  intro _ a held m mapped
  refine (wp_ite _ _).2 ⟨fun hostWrite => ?_, fun readOnly => ?_⟩
  · refine (Live.wp_onPlatform _).2 ((Platform.wp_writeBuffer (housed.stored_of held) _ _).ok ?_)
    intro _ p written
    exact ⟨a, m, held, mapped, rfl, fun _ => written, by simp [hostWrite]⟩
  · exact ⟨a, m, held, mapped, rfl, fun hostWrite => absurd hostWrite readOnly, fun _ => rfl⟩

theorem follows_unmap (h : Stands s q) (alloc : Allocation) :
    (unmap alloc).wp (fun _ t => Follows (q.blocks.alter alloc.id KeptBlock.unmapped) q t)
      (fun _ t => Follows q.blocks q t) s := by
  refine ((wp_unmap h.housed alloc).and (unmap_leaves alloc s)).mono ?_ ?_
  · rintro _ t ⟨⟨a, m, held, mapping, device, written, same⟩, -⟩
    obtain ⟨b, found, room, backs⟩ := h.backs held
    obtain ⟨copied, inside⟩ := backs.mapped m mapping
    rw [Blocks.alter_of_some found, KeptBlock.unmapped_of_some copied]
    cases hostWrite : b.params.hostWrite with
    | true =>
      have fits : m.offset + m.shadow.toBytes.length ≤ b.bytes.length := by
        rwa [Storage.length_toBytes, backs.length]
      have length := (Bytes.length_splice fits).trans backs.length
      exact h.put held device rfl ⟨backs.live, backs.params, length, nofun⟩
        (h.sound.patched found fits (by rfl) h.contents (room ▸ written (backs.params ▸ hostWrite)))
    | false =>
      refine h.relabelled held found device rfl ⟨backs.live, backs.params, backs.length, nofun⟩
        (by rfl) ?_
      rw [same (backs.params ▸ hostWrite)]
      exact Evolution.refl _
  · rintro e t ⟨-, device, grown⟩
    have same (kept : t.device = s.device) : Follows q.blocks q t :=
      h.follows (Untouched.memoryStill ⟨kept, grown⟩)
    by_cases here : alloc.device = s.device.id
    · rw [if_pos here] at device
      cases held : s.device.buffers.get? alloc.id with
      | none => exact same (device.trans (unmapped_of_none held))
      | some a =>
        -- The mapping is lost, which plain memory does not know of.
        obtain ⟨b, found, -, backs⟩ := h.backs held
        have lost := h.relabelled held found (device.trans (unmapped_of_some held)) rfl
          ⟨backs.live, backs.params, backs.length, nofun⟩ rfl grown
        rwa [← found, Function.update_eq_self] at lost
    · exact same (device.trans (if_neg here))

theorem follows_writeRange (h : Stands s q) (dst : Pointer) (data : HostData) :
    (writeRange dst data.val).wp
      (fun _ t => Follows (q.blocks.patch dst.allocId dst.offset.toNat data.val.toBytes) q t)
      (fun _ t => Follows q.blocks q t) s := by
  have sized : data.val.size < maxWord := Nat.lt_of_le_of_lt data.property (by decide)
  refine ((wp_writeRange h.housed sized).and (writeRange_spares dst data.val s)).mono ?_ ?_
  · rintro _ t ⟨⟨device, a, held, inside, -, written⟩, -⟩
    obtain ⟨b, found, room, backs⟩ := h.backs held
    have fits : dst.offset.toNat + data.val.toBytes.length ≤ b.bytes.length := by
      rwa [Storage.length_toBytes, backs.length]
    have length := (Bytes.length_splice fits).trans backs.length
    rw [Blocks.patch, Blocks.alter_of_some found]
    refine h.put held ?_ rfl ⟨backs.live, backs.params, length, backs.mapped⟩
      (h.sound.patched found fits (by rfl) h.contents (room ▸ written))
    rw [device, SortedMap.insert_eq_self held]
  · rintro e t ⟨-, same⟩
    exact h.follows same.memoryStill

theorem Stands.edited (h : Stands s q) {region : MappedRegion} {offset : Nat} {data : Storage}
    (maps : s.device.maps region = true) (inside : offset + data.size ≤ region.length) :
    Follows (q.blocks.alter region.allocId (·.edited offset data.toBytes)) q
      { s with device := s.device.writeRegion region offset data } := by
  unfold Gpu.maps at maps
  cases held : s.device.buffers.get? region.allocId with
  | none => simp [held] at maps
  | some a =>
    cases mapping : a.mapping with
    | none => simp [held, mapping] at maps
    | some m =>
      simp only [held, Option.bind_some, mapping, Bool.and_eq_true, decide_eq_true_eq] at maps
      obtain ⟨b, found, room, backs⟩ := h.backs held
      obtain ⟨copied, fits⟩ := backs.mapped m mapping
      have written : s.device.writeRegion region offset data = { s.device with
          buffers := s.device.buffers.insert region.allocId
            { a with mapping := some { m with shadow := m.shadow.splice offset data } } } := by
        simp [writeRegion, held, mapping]
      rw [Blocks.alter_of_some found]
      refine h.relabelled held found written rfl ⟨backs.live, backs.params, backs.length, ?_⟩
        (by rfl) (Evolution.refl _)
      rintro _ ⟨⟩
      refine ⟨?_, ?_⟩
      · rw [KeptBlock.edited, copied, Option.map_some, HostMapping.copy, HostMapping.copy,
          Storage.toBytes_splice]
      · rwa [Storage.size_splice (by omega)]

end Gpu

/-- The device calls that can change what plain memory holds. -/
def DeviceCall.ofMemory : DeviceCall → Bool
  | .memory _ | .copyWithin .. | .queueNative _ => true
  | _ => false

theorem DeviceCall.memoryStill (call : DeviceCall) (other : call.ofMemory = false) :
    call.run.Evolves Gpu.MemoryStill := by
  open Gpu in
  cases call with
  | memory | copyWithin | queueNative => cases other
  | waitIdle => exact (framed_wait none).mono fun _ _ => Still.memoryStill
  | createImage | importImage | bindView | destroyImage => exact DeviceCall.framedImage _ rfl
  | _ => exact DeviceCall.framed _ rfl

/-- What a memory call does to the device it does to plain memory; if it fails, nothing. -/
theorem MemoryCall.follows {s : Live Gpu} {q : Placement} (h : Gpu.Stands s q) (call : MemoryCall) :
    call.run.wp (fun answer t => Gpu.Follows (q.blocks.after call answer) q t)
      (fun _ t => Gpu.Follows q.blocks q t) s := by
  open Gpu in
  have still {α : Type} {a : Action (Live Gpu) α} (step : a.Evolves MemoryStill) :
      a.wp (fun _ t => Follows q.blocks q t) (fun _ t => Follows q.blocks q t) s :=
    (step s).mono (fun _ _ => h.follows) fun _ _ => h.follows
  have same : Follows q.blocks q s := h.follows (Evolution.refl s)
  cases call with
  | allocate params =>
    refine (wp_map _ _).2 ((wp_allocate params s).mono (fun alloc _ => h.allocated) ?_)
    exact fun _ _ step => h.follows step.memoryStill
  | deallocate alloc =>
    refine (wp_bind _ _).2 ((wp_deallocate alloc s).mono ?_ ?_)
    · rintro _ _ ⟨-, ⟨a, held⟩, rfl⟩
      exact h.deallocated held
    · rintro _ _ rfl
      exact same
  | map alloc => exact (wp_map _ _).2 (follows_mapRange h _ _)
  | mapRange start size => exact (wp_map _ _).2 (follows_mapRange h start size)
  | unmap alloc => exact (wp_bind _ _).2 (follows_unmap h alloc)
  | read range =>
    exact (wp_map _ _).2 (still ((untouched_readRange range).mono fun _ _ => (·.memoryStill)))
  | write dst data => exact (wp_bind _ _).2 (follows_writeRange h dst data)
  | readRegion region => exact same
  | writeRegion region offset data =>
    refine (wp_bind _ _).2 ((wp_ite _ _).2 ⟨fun inside => ?_, fun _ => same⟩)
    simp only [Bool.and_eq_true, decide_eq_true_eq] at inside
    exact h.edited inside.1 inside.2

end DeviceLayer
