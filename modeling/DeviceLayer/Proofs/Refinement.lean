import DeviceLayer.Proofs.Simulation
import DeviceLayer.Proofs.Submissions

/-!
# Memory of a device refines plain memory

While no poll fails, a device answers every call as plain memory does: with the same bytes, regions
and ids, and with the same refusals, those of the graphics library among them.

* `Gpu.simulates_allocate`, … — the operations one by one.
* `MemoryCall.simulates` — every call of a client.
* `Gpu.memory_refines_store` — the answers to every list of calls.
-/

namespace DeviceLayer

open DeviceLayer.Action

/-! ## The calls -/

namespace Gpu

variable {s : Live Gpu}

theorem simulates_resolve (h : Backed s) (p : Pointer) :
    Simulates (fun a b t => s = t ∧ s.device.buffers.get? p.allocId = some a ∧
      a.block s.platform.contents = b) (resolve p) (Store.block p) s := by
  unfold resolve checkLocal allocation Store.block
  simp only [bind_assoc]
  refine (Simulates.self h).bindStill ?_
  rintro _ _ ⟨rfl, rfl⟩
  refine (Simulates.require h _ _).bindStill fun _ _ _ => .reread ?_
  exact Simulates.orRefuse h (get?_store _ _) _

/-- A request that stays inside an allocation, in terms of the allocation and of its block. -/
structure InWindow (s : Live Gpu) (p : Pointer) (length : Nat) (a : BufferAllocation)
    (b : Block) : Prop where
  held : s.device.buffers.get? p.allocId = some a
  isBlock : a.block s.platform.contents = b
  inside : p.offset.toNat + length ≤ a.size

theorem simulates_checkedRange (h : Backed s) (p : Pointer) (size : UInt64) {length : Block → Nat}
    (means : ∀ b : Block, resolveSize p.offset size b.bytes.length = length b) :
    Simulates (fun x b t => s = t ∧ ∃ a, (a.buffer, length b) = x ∧ InWindow s p (length b) a b)
      (checkedRange p size) (Store.window p length) s := by
  refine (simulates_resolve h p).bindStill ?_
  rintro a _ ⟨held, rfl⟩
  have total := h.length_block held
  have resolved := means (a.block s.platform.contents)
  rw [total] at resolved
  simp only [resolved, total]
  refine (Simulates.require h _ _).bindStill fun _ _ inside => ?_
  exact .pure h ⟨rfl, a, rfl, held, rfl, of_decide_eq_true inside⟩

/-- Reading a window of an allocation gives the bytes of its block and changes nothing. -/
theorem wp_onPlatform_readBuffer (h : Backed s) {p : Pointer} {length : Nat}
    {a : BufferAllocation} {b : Block} (window : InWindow s p length a b) :
    (Live.onPlatform (Platform.readBuffer a.buffer p.offset.toNat length)).wp
      (fun data t => Backed t ∧ store t = store s ∧
        t.device = s.device ∧ a.block t.platform.contents = b ∧
          data.toBytes = b.bytes.slice p.offset.toNat length)
      (fun _ _ => False) s := by
  obtain ⟨held, rfl, inside⟩ := window
  obtain ⟨roomy, room, -⟩ := h.backed held
  rw [Live.wp_onPlatform]
  refine (Platform.wp_readBuffer_of_le h.answers roomy (Nat.le_trans inside room)).mono ?_
    fun _ _ => False.elim
  rintro data q ⟨read, patched⟩
  obtain ⟨backed, stands⟩ := h.patched held patched (Storage.length_toBytes _)
  refine ⟨backed, ?_, rfl, ?_, ?_⟩
  · rw [stands]
    exact Store.insert_eq_self (by rw [get?_store, held]; rfl)
  · rw [BufferAllocation.block, patched.patched]
    rfl
  · rw [read, BufferAllocation.block, Bytes.slice_take inside]

theorem simulates_readRange (h : Backed s) (range : Range) :
    Simulates (fun x y _ => x.toBytes = y) (readRange range) (Store.read range) s := by
  refine (simulates_checkedRange h _ _ fun b => rfl).bindStill ?_
  rintro _ b ⟨a, rfl, window⟩
  refine .silent ((wp_onPlatform_readBuffer h window).mono ?_ fun _ _ => False.elim)
  rintro data t ⟨backed, same, -, -, read⟩
  exact ⟨backed, same, read⟩

theorem wp_onPlatform_writeBuffer (h : Backed s) {id : UInt32} {a : BufferAllocation}
    (held : s.device.buffers.get? id = some a) {offset : Nat} {data : Storage}
    (inside : offset + data.size ≤ a.size) :
    (Live.onPlatform (Platform.writeBuffer a.buffer offset data)).wp
      (fun _ t => Backed t ∧ store t = (store s).insert id
        { a.block s.platform.contents with
          bytes := (a.block s.platform.contents).bytes.splice offset data.toBytes })
      (fun _ _ => False) s := by
  obtain ⟨roomy, room, -⟩ := h.backed held
  have fits : offset + data.toBytes.length ≤ (s.platform.contents.of a.buffer).toBytes.length := by
    rw [Storage.length_toBytes, Storage.length_toBytes]
    exact Nat.le_trans inside room
  rw [Live.wp_onPlatform]
  refine (Platform.wp_writeBuffer_of_le h.answers roomy (Nat.le_trans inside room)).mono ?_
    fun _ _ => False.elim
  intro _ q patched
  have length := (Bytes.length_splice fits).trans (Storage.length_toBytes _)
  obtain ⟨backed, stands⟩ := h.patched held patched length
  refine ⟨backed, stands.trans ?_⟩
  rw [Bytes.take_splice (by rwa [Storage.length_toBytes])]
  rfl

theorem simulates_writeRange (h : Backed s) (dst : Pointer) (data : HostData) :
    Simulates (fun _ _ _ => True) (writeRange dst data) (Store.write dst data.val.toBytes) s := by
  have bound : data.val.size < 2 ^ 64 := Nat.lt_of_le_of_lt data.property (by decide)
  have exact : (UInt64.ofNat data.val.size).toNat = data.val.size := UInt64.toNat_ofNat_of_lt bound
  -- No object is as large as the size that stands for the rest.
  have notWhole : UInt64.ofNat data.val.size ≠ wholeSize := by
    intro same
    have large : data.val.size = maxWord := exact.symm.trans (congrArg UInt64.toNat same)
    exact absurd data.property (by rw [large]; decide)
  have means (b : Block) : resolveSize dst.offset (UInt64.ofNat data.val.size) b.bytes.length =
      data.val.toBytes.length := by
    rw [resolveSize_of_ne notWhole, exact, Storage.length_toBytes]
  refine (simulates_checkedRange h _ _ means).bindStill ?_
  rintro _ b ⟨a, rfl, held, rfl, inside⟩
  rw [Storage.length_toBytes] at inside
  refine .put ((wp_onPlatform_writeBuffer h held inside).mono ?_ fun _ _ => False.elim)
  rintro _ t' ⟨backed, stands⟩
  exact ⟨backed, stands, trivial⟩

/-- The host gets a copy of the window, and the allocation remembers it. -/
theorem simulates_mapRange (h : Backed s) (p : Pointer) (size : UInt64) :
    Simulates (fun x y _ => x = y) (mapRange p size) (Store.mapRange p size) s := by
  refine (simulates_checkedRange h _ _ fun b => rfl).bindStill ?_
  rintro _ b ⟨a, rfl, held, rfl, inside⟩
  have unmapped : (a.block s.platform.contents).copy.isNone = a.mapping.isNone := Option.isNone_map
  unfold allocation
  simp only [bind_assoc]
  refine .reread ?_
  rw [held]
  refine (Simulates.require h _ _).bindStill fun _ _ _ => ?_
  rw [unmapped]
  refine (Simulates.require h _ _).bindStill fun _ _ _ => ?_
  refine .stutter (wp_onPlatform_readBuffer h ⟨held, rfl, inside⟩) ?_
  rintro shadow t backed ⟨device, isBlock, read⟩
  refine (Simulates.put (R := fun _ _ _ => True) ?_).bind fun _ _ _ backed _ => .pure backed rfl
  have mapped (m : HostMapping) (same : some ⟨p.offset.toNat, shadow⟩ = some m) :
      m.offset + m.shadow.size ≤ a.size := by
    cases same
    -- The copy is as long as the window at most.
    have short : shadow.size ≤ (a.block s.platform.contents).requested p.offset size := by
      rw [← Storage.length_toBytes, read, Bytes.length_slice]
      exact Nat.min_le_left _ _
    exact Nat.le_trans (Nat.add_le_add_left short _) inside
  obtain ⟨backed', stands⟩ := backed.remapped (device.symm ▸ held) mapped
  refine ⟨backed', stands.trans ?_, trivial⟩
  rw [isBlock, Option.map_some, HostMapping.copy, read]
  rfl

/-- Where the host may write, the copy replaces the window; the mapping ends in any case. -/
theorem simulates_unmap (h : Backed s) (alloc : Allocation) :
    Simulates (fun _ _ _ => True) (unmap alloc) (Store.unmap alloc) s := by
  refine (simulates_resolve h _).bindStill ?_
  rintro a _ ⟨held, rfl⟩
  refine (Simulates.orRefuse h rfl _).bindStill ?_
  rintro m _ ⟨mapping, rfl⟩
  have unmapped (m : HostMapping) (same : none = some m) : m.offset + m.shadow.size ≤ a.size :=
    nomatch same
  obtain ⟨backed, stands⟩ := h.remapped held unmapped
  let ended (bytes : Bytes) : Block :=
    { a.block s.platform.contents with bytes, copy := none }
  -- The mapping is gone before anything is written back.
  refine .put ?_
  unfold putBuffer
  rw [wp_bind, Live.wp_update]
  split
  · rename_i hostWrite
    refine (wp_onPlatform_writeBuffer backed (SortedMap.get?_insert_self ..)
      ((h.backed held).mapped m mapping)).mono ?_ fun _ _ => False.elim
    rintro _ t ⟨backed', stands'⟩
    refine ⟨backed', ?_, trivial⟩
    rw [stands', stands, Store.insert_insert]
    exact congrArg (fun bytes => (store s).insert alloc.id (ended bytes)) (if_pos hostWrite).symm
  · rename_i readOnly
    refine ⟨backed, stands.trans ?_, trivial⟩
    exact congrArg (fun bytes => (store s).insert alloc.id (ended bytes)) (if_neg readOnly).symm

theorem simulates_deallocate (h : Backed s) (alloc : Allocation) :
    Simulates (fun _ _ _ => True) (deallocate alloc) (Store.deallocate alloc) s := by
  -- The allocation is looked up as for any access, and what is found is not used.
  have ofResolve : deallocate alloc = (resolve (alloc.pointer 0) >>= fun _ =>
      Live.update fun g => { g with buffers := g.buffers.erase alloc.id }) := by
    simp only [deallocate, resolve, discard_bind, bind_assoc]
    rfl
  rw [ofResolve]
  refine (simulates_resolve h _).bindStill fun _ _ _ => ?_
  obtain ⟨backed, stands⟩ := h.erased alloc.id
  exact ⟨backed, (), stands ▸ rfl, trivial⟩

/-- A new native buffer for an allocation, which no allocation has as yet. -/
structure Created (params : AllocParams) (s : Live Gpu) (buffer : Buffer) (t : Live Gpu) :
    Prop where
  device : t.device = s.device
  zeros : t.platform.contents.of buffer = .zeros (paddedSize params.size)
  known : buffer.id < t.platform.contents.length
  connection : buffer.connection = s.device.connection
  within : paddedSize params.size ≤ s.device.limits.maxBufferSize.toNat
  isNew : ∀ {id a}, s.device.buffers.get? id = some a → a.buffer.id < buffer.id

/-- Plain memory is granted an allocation if the library makes a native buffer for it. -/
theorem simulates_createBuffer (h : Backed s) (params : AllocParams) :
    Simulates (fun buffer _ t => Created params s buffer t)
      (attempt (Platform.createBuffer · (.memory params.memoryType) (paddedSize params.size)))
      (Action.check ((store s).granted params)) s := by
  unfold Simulates
  rw [wp_attempt, Platform.wp_createBuffer]
  refine ⟨fun within => ?_, fun past => ⟨h, ?_⟩⟩
  · have granted : (store s).granted params = .ok () := if_pos within
    -- The new buffer comes after all others, so every block keeps its bytes.
    have same {id a} (held : s.device.buffers.get? id = some a) :
        Contents.of (s.platform.contents ++ [.zeros (paddedSize params.size)]) a.buffer =
          s.platform.contents.of a.buffer :=
      Contents.of_append (h.backed held).roomy.known _
    have blocks : (s.device.buffers.mapValues fun a =>
        a.block (s.platform.contents ++ [.zeros (paddedSize params.size)])) =
          (store s).blocks := by
      refine SortedMap.ext_get? fun id => ?_
      rw [SortedMap.get?_mapValues, get?_store]
      cases held : s.device.buffers.get? id with
      | none => rfl
      | some a => rw [Option.map_some, Option.map_some, BufferAllocation.block, same held]; rfl
    refine ⟨⟨h.answers, h.fit, fun held => ?_, h.apart⟩, (), ?_, rfl, ?_, ?_, rfl, within,
      fun held => (h.backed held).roomy.known⟩
    · refine (h.backed held).of_same ?_ (congrArg Storage.size (same held))
      rw [Platform.contents_makeBuffer, List.length_append]
      exact Nat.le_succ _
    · rw [granted]
      exact congrArg (fun blocks => EStateM.Result.ok () { store s with blocks }) blocks.symm
    · exact Contents.of_append_new rfl _
    · rw [Platform.contents_makeBuffer, List.length_append]
      exact Nat.lt_succ_self _
  · have refused : (store s).granted params = _ := if_neg (Nat.not_le.2 past)
    rw [refused]
    rfl

/-- An allocation that was just given a new native buffer stands for zeros. -/
theorem Backed.allocated (h : Backed s) (id : UInt32) {params : AllocParams} {buffer : Buffer}
    (created : Created params s buffer s) :
    Backed { s with device.buffers := s.device.buffers.insert id { buffer, params } } ∧
      store { s with device.buffers := s.device.buffers.insert id { buffer, params } } =
        (store s).insert id { params, bytes := .zeros params.size.toNat } := by
  have padded := max_le_paddedSize params.size
  have room : params.size.toNat ≤ paddedSize params.size := by omega
  have size : s.platform.bufferSize buffer = paddedSize params.size := by
    rw [Platform.bufferSize, created.zeros, Storage.size_zeros]
  have roomy : s.platform.Roomy buffer := by
    refine ⟨created.known, ?_, ?_, ?_⟩
    · rw [size]
      exact decide_eq_true (mod_paddedSize params.size)
    · rw [size, created.connection]
      exact created.within
    · rw [size]
      exact Nat.le_trans (Nat.add_le_add_right created.within _) h.fit
  have backed : BufferAllocation.Backed s.platform { buffer, params } :=
    ⟨roomy, size.symm ▸ room, fun m mapped => by cases mapped⟩
  have isBlock : BufferAllocation.block s.platform.contents { buffer, params } =
      { params, bytes := .zeros params.size.toNat } := by
    rw [BufferAllocation.block, created.zeros, Storage.toBytes_zeros]
    simp [BufferAllocation.size, Bytes.zeros, room]
  rw [← isBlock]
  exact h.inserted id backed fun held same => absurd same (Nat.ne_of_lt (created.isNew held))

theorem simulates_allocate (h : Backed s) (params : AllocParams) :
    Simulates (fun x y _ => x = y) (allocate params) (Store.allocate params) s := by
  unfold allocate Store.allocate registeredId takeAllocId
  simp only [bind_assoc, pure_bind]
  refine (Simulates.self h).bindStill ?_
  rintro _ _ ⟨rfl, rfl⟩
  refine (Simulates.require h _ _).bindStill fun _ _ _ => .reread ?_
  refine .ite (fun _ => ?_) fun small => ?_
  · exact (Simulates.throw (R := fun _ _ _ => False) h _).bind fun _ _ _ _ no => no.elim
  rw [nativeSize_of_le h.fit (UInt64.not_lt.1 small), check, pure_bind]
  -- The native buffer is made before the allocation gets its number.
  refine (simulates_createBuffer h params).bind ?_
  rintro buffer _ t backed ⟨device, zeros, known, connection, within, isNew⟩
  refine .reread ?_
  rw [device]
  refine (Simulates.check backed _).bindStill ?_
  rintro ⟨id, next⟩ _ ⟨rfl, -⟩
  rw [← device] at connection within isNew
  let u : Live Gpu := { t with device.nextAlloc := next }
  have counted : Backed u := ⟨backed.answers, backed.fit, backed.backed, backed.apart⟩
  have created : Created params u buffer u := ⟨rfl, zeros, known, connection, within, isNew⟩
  obtain ⟨placed, stands⟩ := counted.allocated id created
  have numbered : Simulates (fun _ _ t' => t' = u)
      (Live.update fun g => { g with nextAlloc := next }) (modify fun m => { m with next }) t :=
    ⟨counted, (), rfl, rfl⟩
  refine numbered.bind ?_
  rintro _ _ _ - rfl
  have put : Simulates (fun _ _ _ => True) (putBuffer id { buffer, params })
      (Store.put id { params, bytes := .zeros params.size.toNat }) u :=
    .put ⟨placed, stands, trivial⟩
  exact put.bind fun _ _ _ backed _ => .pure backed rfl

/-- A region is mapped at present exactly if plain memory has a copy for it. -/
theorem copy?_store (s : Live Gpu) (region : MappedRegion) :
    (s.device.maps region = false ∧ (store s).copy? region = none) ∨
      ∃ a m, s.device.buffers.get? region.allocId = some a ∧ a.mapping = some m ∧
        m.shadow.size = region.length ∧ s.device.maps region = true ∧
          (store s).copy? region = some (a.block s.platform.contents, m.copy) := by
  unfold maps Store.copy?
  rw [get?_store]
  cases held : s.device.buffers.get? region.allocId with
  | none => exact .inl ⟨rfl, rfl⟩
  | some a =>
    cases mapping : a.mapping with
    | none => simp [BufferAllocation.block, mapping]
    | some m =>
      by_cases same : m.offset = region.offset ∧ m.shadow.size = region.length
      · refine .inr ⟨a, m, rfl, mapping, same.2, ?_, ?_⟩
        · simp [mapping, same]
        · simp [BufferAllocation.block, mapping, HostMapping.copy, same]
      · refine .inl ⟨?_, ?_⟩
        · simpa [mapping] using fun offset size => same ⟨offset, size⟩
        · simp [BufferAllocation.block, mapping, HostMapping.copy, same]

theorem simulates_readRegion (h : Backed s) (region : MappedRegion) :
    Simulates (fun x y _ => x = y) (MemoryCall.readRegion region).run
      (MemoryCall.readRegion region).onStore s := by
  refine (Simulates.self h).bindStill ?_
  rintro _ _ ⟨rfl, rfl⟩
  rcases copy?_store s region with ⟨unmapped, none⟩ | ⟨a, m, held, mapping, -, mapped, copied⟩
  · rw [unmapped, none]
    exact .pure h rfl
  · rw [mapped, copied]
    refine .pure h ?_
    simp [readRegion, held, mapping, HostMapping.copy]

theorem simulates_writeRegion (h : Backed s) (region : MappedRegion) (offset : Nat)
    (data : HostData) :
    Simulates (fun x y _ => x = y) (MemoryCall.writeRegion region offset data).run
      (MemoryCall.writeRegion region offset data).onStore s := by
  refine (Simulates.self h).bindStill ?_
  rintro _ _ ⟨rfl, rfl⟩
  rcases copy?_store s region with ⟨unmapped, none⟩ | ⟨a, m, held, mapping, size, mapped, copied⟩
  · rw [unmapped, none]
    exact .pure h rfl
  · simp only [mapped, copied, Bool.true_and, decide_eq_true_eq]
    refine .ite (fun inside => ?_) fun outside => .pure h rfl
    have fits : offset + data.val.size ≤ m.shadow.size := size.symm ▸ inside
    have written : s.device.writeRegion region offset data = { s.device with
        buffers := s.device.buffers.insert region.allocId
          { a with mapping := some { m with shadow := m.shadow.splice offset data } } } := by
      simp [writeRegion, held, mapping]
    have mapped' (m' : HostMapping)
        (same : some { m with shadow := m.shadow.splice offset data } = some m') :
        m'.offset + m'.shadow.size ≤ a.size := by
      cases same
      rw [Storage.size_splice fits]
      exact (h.backed held).mapped m mapping
    obtain ⟨backed, stands⟩ := h.remapped held mapped'
    rw [← written] at backed stands
    rw [Option.map_some, HostMapping.copy, Storage.toBytes_splice] at stands
    refine (Simulates.put (R := fun _ _ _ => True) ?_).bind fun _ _ _ backed _ => .pure backed rfl
    exact ⟨backed, stands, trivial⟩

end Gpu

/-- Every call is answered by a device as by plain memory. -/
theorem MemoryCall.simulates {s : Live Gpu} (h : Gpu.Backed s) (call : MemoryCall) :
    Simulates (fun x y _ => x = y) call.run call.onStore s := by
  cases call with
  | allocate params => exact (Gpu.simulates_allocate h params).map fun _ _ _ => congrArg _
  | deallocate alloc =>
    exact (Gpu.simulates_deallocate h alloc).bind fun _ _ _ backed _ => .pure backed rfl
  | map alloc => exact (Gpu.simulates_mapRange h _ _).map fun _ _ _ => congrArg _
  | mapRange start size => exact (Gpu.simulates_mapRange h _ _).map fun _ _ _ => congrArg _
  | unmap alloc =>
    exact (Gpu.simulates_unmap h alloc).bind fun _ _ _ backed _ => .pure backed rfl
  | read range => exact (Gpu.simulates_readRange h range).map fun _ _ _ => congrArg _
  | write dst data =>
    exact (Gpu.simulates_writeRange h dst data).bind fun _ _ _ backed _ => .pure backed rfl
  | readRegion region => exact Gpu.simulates_readRegion h region
  | writeRegion region offset data => exact Gpu.simulates_writeRegion h region offset data

theorem MemoryCall.outcome_onStore {s : Live Gpu} (h : Gpu.Backed s) (call : MemoryCall) :
    Gpu.Backed (call.run.outcome s).2 ∧
      call.onStore.outcome (Gpu.store s) =
        ((call.run.outcome s).1, Gpu.store (call.run.outcome s).2) := by
  refine wp.outcome (P := fun o => Gpu.Backed o.2 ∧
    call.onStore.outcome (Gpu.store s) = (o.1, Gpu.store o.2)) ?_
  refine wp.mono (call.simulates h) ?_ ?_
  · rintro x t ⟨backed, y, ended, rfl⟩
    exact ⟨backed, by rw [outcome, ended]⟩
  · rintro e t ⟨backed, ended⟩
    exact ⟨backed, by rw [outcome, ended]⟩

theorem Gpu.Backed.answers_eq {s : Live Gpu} (h : Backed s) (calls : List MemoryCall) :
    MemoryCall.answers MemoryCall.run calls s =
      MemoryCall.answers MemoryCall.onStore calls (store s) := by
  induction calls generalizing s with
  | nil => rfl
  | cons call calls ih =>
    obtain ⟨backed, same⟩ := call.outcome_onStore h
    simp only [MemoryCall.answers, same, ih backed]

/-- A device that was brought up on a platform where no poll fails, and registered, answers every
list of calls as plain memory of its limit does. Memory that is past the limit once it is rounded up
the graphics library has no buffer for, and neither has the store. -/
theorem Gpu.memory_refines_store {limits : Limits} {p q : Platform} {g : Gpu}
    (created : create limits p = .ok g q) (answers : p.Answers) (id : DeviceId)
    (calls : List MemoryCall) :
    MemoryCall.answers MemoryCall.run calls ⟨q, { g with assigned := some id }⟩ =
      MemoryCall.answers MemoryCall.onStore calls
        { device := id, limit := limits.maxBufferSize } := by
  obtain ⟨served, adapter, placeholder, rfl, -, -, script⟩ := create_eq_ok created
  have fresh : Backed ⟨q, { ({ connection := ⟨p.connections, limits⟩, adapter, placeholder } : Gpu)
      with assigned := some id }⟩ :=
    ⟨by rw [Platform.Answers, script]; exact answers, Adapter.fit_of_serves served, nofun, nofun⟩
  exact fresh.answers_eq calls

/-- Three bytes written and five read at odd places of six. -/
theorem Gpu.memory_refines_store_unaligned :
    ∃ g q, create {} {} = .ok g q ∧
      MemoryCall.answers MemoryCall.run
          [.allocate (.hostVisible 6), .write ⟨⟨1⟩, 0, 2⟩ ⟨.ofBytes [7, 8, 9], by decide⟩,
            .read ⟨⟨⟨1⟩, 0, 1⟩, 5⟩, .read ⟨⟨⟨1⟩, 0, 1⟩, 6⟩]
          ⟨q, { g with assigned := some ⟨1⟩ }⟩ =
        [.ok (.allocation ⟨⟨1⟩, 0⟩), .ok .done, .ok (.bytes [0, 7, 8, 9, 0]),
          .error (.device (.precondition (.rangeExceeds 6 1 6)))] := by
  have answers : ({} : Platform).Answers := nofun
  have created := (rfl : create {} {} = .ok _ _)
  refine ⟨_, _, created, ?_⟩
  rw [memory_refines_store created answers ⟨1⟩]
  rfl

end DeviceLayer
