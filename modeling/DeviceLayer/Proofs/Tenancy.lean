import DeviceLayer.Proofs.Stillness

/-!
# Where allocations live

Every live allocation of a graphics processor has a native buffer of its own, and an id that will
not be given out again. No call changes that.

* `Gpu.room?`, `Gpu.Housed` — the native buffer of an allocation; the invariant.
* `Gpu.KeepsRooms`, `Gpu.Rehoused` — allocations stay where they are, or come and go.
* `Call.rehoused` — what every call of a client comes to.
-/

namespace DeviceLayer

open DeviceLayer.Action

namespace Platform

/-- Native buffers are never taken away. -/
def Widens (p q : Platform) : Prop := p.contents.length ≤ q.contents.length

instance : Evolution Widens := ⟨fun _ => Nat.le_refl _, Nat.le_trans⟩

theorem widens_readBuffer (b : Buffer) (offset size : Nat) :
    (readBuffer b offset size).Evolves Widens :=
  (extends_readBuffer b offset size).mono fun _ _ => Extends.grows

theorem widens_writeBuffer (b : Buffer) (offset : Nat) (data : Storage) :
    (writeBuffer b offset data).Evolves Widens := by
  have write (offset : Nat) (data : Storage) :
      (modify (queueWrite b offset data) : Action Platform Unit).Evolves Widens :=
    fun _ => Nat.le_of_eq (List.length_modify ..).symm
  unfold writeBuffer
  split
  · exact .pure _
  · refine (Evolves.check _).bind fun past => (evolves_checkBounds _ _ _).bind fun _ => ?_
    split
    · exact write _ _
    · exact (widens_readBuffer _ _ _).bind fun _ => write _ _

theorem widens_submit (label : EncoderLabel) (commands : List Command) (p : Platform) :
    p.Widens (p.submit label commands).2 :=
  Nat.le_of_eq (length_runCommands _ _).symm

end Platform

namespace Gpu

/-- The number of the native buffer that an allocation lives in. -/
def room? (g : Gpu) (id : UInt32) : Option Nat := (g.buffers.get? id).map (·.buffer.id)

/-- Live allocations have ids that will not be given out again, and native buffers of their own. -/
structure Housed (s : Live Gpu) : Prop where
  numbered : ∀ {id : UInt32} {n : Nat}, s.device.room? id = some n → id < s.device.nextAlloc
  stored : ∀ {id : UInt32} {n : Nat}, s.device.room? id = some n →
    n < s.platform.contents.length
  apart : ∀ {id id' : UInt32} {n : Nat}, s.device.room? id = some n →
    s.device.room? id' = some n → id = id'

theorem room?_of_found {g : Gpu} {id : UInt32} {a : BufferAllocation}
    (found : g.buffers.get? id = some a) : g.room? id = some a.buffer.id := by
  rw [room?, found, Option.map_some]

theorem Housed.stored_of {s : Live Gpu} (h : Housed s) {id : UInt32} {a : BufferAllocation}
    (found : s.device.buffers.get? id = some a) : a.buffer.id < s.platform.contents.length :=
  h.stored (room?_of_found found)

/-- Allocations live where they did or in buffers that are new. -/
structure Rehoused (s t : Live Gpu) : Prop where
  assigned : t.device.assigned = s.device.assigned
  platform : s.platform.Widens t.platform
  rooms : ∀ {id : UInt32} {n : Nat}, t.device.room? id = some n →
    s.device.room? id = some n ∨ s.platform.contents.length ≤ n
  housed : Housed s → Housed t

instance : Evolution Rehoused where
  refl _ := ⟨rfl, Nat.le_refl _, .inl, fun h => h⟩
  trans first second := by
    refine ⟨second.assigned.trans first.assigned, Evolution.trans first.platform second.platform,
      fun lives => ?_, fun h => second.housed (first.housed h)⟩
    rcases second.rooms lives with before | new
    · exact first.rooms before
    · exact .inr (Nat.le_trans first.platform new)

/-- Allocations live where they did. -/
structure KeepsRooms (s t : Live Gpu) : Prop where
  assigned : t.device.assigned = s.device.assigned
  platform : s.platform.Widens t.platform
  rooms : t.device.room? = s.device.room?
  nextAlloc : s.device.nextAlloc ≤ t.device.nextAlloc

theorem KeepsRooms.rehoused {s t : Live Gpu} (h : KeepsRooms s t) : Rehoused s t where
  assigned := h.assigned
  platform := h.platform
  rooms lives := .inl (h.rooms ▸ lives)
  housed housed :=
    { numbered := fun lives => UInt32.lt_of_lt_of_le (housed.numbered (h.rooms ▸ lives)) h.nextAlloc
      stored := fun lives => Nat.lt_of_lt_of_le (housed.stored (h.rooms ▸ lives)) h.platform
      apart := fun lives lives' => housed.apart (h.rooms ▸ lives) (h.rooms ▸ lives') }

theorem Still.keepsRooms {s t : Live Gpu} (h : Still s t) : KeepsRooms s t where
  assigned := h.assigned
  platform := h.platform.grows
  rooms := by
    funext id
    rw [room?, room?, h.buffers]
  nextAlloc := h.nextAlloc

theorem Still.rehoused {s t : Live Gpu} (h : Still s t) : Rehoused s t := h.keepsRooms.rehoused

instance : Evolution KeepsRooms where
  refl s := (Evolution.refl (R := Still) s).keepsRooms
  trans first second :=
    ⟨second.assigned.trans first.assigned, Evolution.trans first.platform second.platform,
      second.rooms.trans first.rooms, UInt32.le_trans first.nextAlloc second.nextAlloc⟩

instance : ImageFrame KeepsRooms where
  toFrame := Frame.mono (S := Still) inferInstance fun _ _ => Still.keepsRooms
  images _ := ⟨rfl, Nat.le_refl _, rfl, UInt32.le_refl _⟩

/-! ## Calls that keep the rooms -/

theorem keepsRooms_onPlatform {α : Type} {a : Action Platform α} (h : a.Evolves Platform.Widens) :
    (Live.onPlatform a : Action (Live Gpu) α).Evolves KeepsRooms :=
  Live.evolves_onPlatform h fun _ _ step => ⟨rfl, step, rfl, UInt32.le_refl _⟩

theorem room?_insert {g : Gpu} {id : UInt32} {a a' : BufferAllocation}
    (found : g.buffers.get? id = some a) (same : a'.buffer = a.buffer) :
    room? { g with buffers := g.buffers.insert id a' } = g.room? := by
  funext other
  rw [room?, room?, SortedMap.get?_insert]
  split
  · rename_i here
    rw [Ranked.rank_inj here, found, Option.map_some, Option.map_some, same]
  · rfl

theorem keepsRooms_putMapping {s : Live Gpu} {id : UInt32} {a : BufferAllocation}
    (found : s.device.buffers.get? id = some a) (mapping : Option HostMapping) :
    KeepsRooms s { s with device.buffers := s.device.buffers.insert id { a with mapping } } :=
  ⟨rfl, Nat.le_refl _, room?_insert found rfl, UInt32.le_refl _⟩

theorem keepsRooms_mapRange (pointer : Pointer) (size : UInt64) :
    (mapRange pointer size).Evolves KeepsRooms := by
  refine (evolves_checkedRange _ _).bind fun (buffer, length) => ?_
  intro s
  have same : KeepsRooms s s := Evolution.refl s
  simp only [allocation, wp_bind, Live.wp_self, wp_orRefuse, wp_require, Live.wp_onPlatform,
    putBuffer, Live.wp_update, wp_pure]
  refine ⟨fun a found => ⟨fun _ => ⟨fun _ => ?_, fun _ => same⟩, fun _ => same⟩, fun _ => same⟩
  refine (Platform.widens_readBuffer _ _ _ _).mono (fun shadow p step => ?_) fun _ p step => ?_
  · exact ⟨rfl, step, room?_insert found rfl, UInt32.le_refl _⟩
  · exact ⟨rfl, step, rfl, UInt32.le_refl _⟩

theorem keepsRooms_unmap (alloc : Allocation) : (unmap alloc).Evolves KeepsRooms := by
  intro s
  have same : KeepsRooms s s := Evolution.refl s
  simp only [unmap, resolve, checkLocal, allocation, wp_bind, Live.wp_self, wp_require, wp_orRefuse,
    putBuffer, Live.wp_update]
  refine ⟨fun _ => ⟨fun a found => ⟨fun mapping _ => ?_, fun _ => same⟩, fun _ => same⟩,
    fun _ => same⟩
  have put := keepsRooms_putMapping found none
  have copied : (if a.params.hostWrite = true then
      Live.onPlatform (Platform.writeBuffer a.buffer mapping.offset mapping.shadow)
      else pure () : Action (Live Gpu) Unit).Evolves KeepsRooms :=
    .ite (keepsRooms_onPlatform (Platform.widens_writeBuffer _ _ _)) (.pure _)
  exact (copied _).mono (fun _ _ => Evolution.trans put) fun _ _ => Evolution.trans put

theorem keepsRooms_writeRange (dst : Pointer) (data : Storage) :
    (writeRange dst data).Evolves KeepsRooms :=
  (evolves_checkedRange _ _).bind fun _ =>
    keepsRooms_onPlatform (Platform.widens_writeBuffer _ _ _)

theorem keepsRooms_submit (label : EncoderLabel) (commands : List Command) :
    (Live.request (Platform.submit label commands) : Action (Live Gpu) Platform.Fence).Evolves
      KeepsRooms :=
  Live.evolves_request fun _ => ⟨rfl, Platform.widens_submit _ _ _, rfl, UInt32.le_refl _⟩

theorem keepsRooms_copyWithin (dst : Pointer) (src : Range) :
    (copyWithin dst src).Evolves KeepsRooms := by
  refine (evolves_checkLocal _).bind fun _ => evolves_self.bind fun g => .ite (.pure _) ?_
  refine (evolves_checkedRange _ _).bind fun _ => (evolves_checkedRange _ _).bind fun _ => ?_
  exact .ite ((keepsRooms_submit _ _).discard.bind fun _ => .pure _) (.pure _)

theorem keepsRooms_writeRegion (s : Live Gpu) (region : MappedRegion) (offset : Nat)
    (data : Storage) :
    KeepsRooms s { s with device := s.device.writeRegion region offset data } := by
  unfold writeRegion
  split
  · rename_i a found
    exact keepsRooms_putMapping found _
  · exact Evolution.refl s

/-! ## Allocations come and go -/

/-- A new allocation has the next id and a new native buffer of zero bytes, long enough for it. -/
structure Allocated (params : AllocParams) (alloc : Allocation) (s t : Live Gpu) : Prop where
  assigned : t.device.assigned = s.device.assigned
  images : t.device.images = s.device.images
  nextAlloc : s.device.nextAlloc < t.device.nextAlloc
  alloc_eq : alloc = ⟨s.device.id, s.device.nextAlloc⟩
  contents : ∃ size, nativeSize params.size = .ok size ∧
    size ≤ s.device.limits.maxBufferSize.toNat ∧
    t.platform.contents = s.platform.contents ++ [.zeros size]
  buffers : ∃ buffer : Buffer, buffer.id = s.platform.contents.length ∧
    buffer.connection = s.device.connection ∧
      t.device.buffers = s.device.buffers.insert s.device.nextAlloc ⟨buffer, params, none⟩
  purpose : ∃ type, ∀ {a : BufferAllocation},
    t.device.buffers.get? s.device.nextAlloc = some a → a.buffer.purpose = .memory type

theorem wp_allocate (params : AllocParams) (s : Live Gpu) :
    (allocate params).wp (fun alloc t => Allocated params alloc s t) (fun _ t => Still s t) s := by
  have same : Still s s := Evolution.refl s
  have made (c : Connection) (purpose : BufferPurpose) (n : Nat) :
      Still s { s with platform := (s.platform.makeBuffer c purpose n).2 } :=
    Basis.makes (Platform.makes_makeBuffer c purpose n s.platform)
  simp only [allocate, registeredId, takeAllocId, putBuffer, wp_bind, Live.wp_self, wp_require,
    wp_pure]
  refine ⟨fun _ => (wp_ite _ _).2 ⟨fun _ => same, fun _ => ?_⟩, fun _ => same⟩
  simp only [wp_bind, wp_check, wp_attempt, Platform.wp_createBuffer, Live.wp_self,
    Live.wp_update, wp_pure]
  refine ⟨fun size fits => ⟨fun within => ⟨?_, fun _ _ => made _ _ _⟩, fun _ => same⟩,
    fun _ _ => same⟩
  rintro ⟨id, next⟩ taken
  obtain ⟨rfl, less⟩ := takeNumber_eq_ok taken
  refine ⟨rfl, rfl, less, rfl, ⟨size, fits, within, rfl⟩, ⟨_, rfl, rfl, rfl⟩, params.memoryType,
    fun held => ?_⟩
  rw [SortedMap.get?_insert_self] at held
  exact Option.some.inj held ▸ rfl

theorem Allocated.room?_eq {params : AllocParams} {alloc : Allocation} {s t : Live Gpu}
    (h : Allocated params alloc s t) (id : UInt32) :
    t.device.room? id =
      if id = s.device.nextAlloc then some s.platform.contents.length else s.device.room? id := by
  obtain ⟨buffer, new, -, buffers⟩ := h.buffers
  rw [room?, buffers, SortedMap.get?_insert]
  by_cases fresh : id = s.device.nextAlloc
  · rw [if_pos (Ranked.rank_eq_iff.2 fresh), if_pos fresh, Option.map_some, new]
  · rw [if_neg (mt Ranked.rank_inj fresh), if_neg fresh, room?]

theorem Allocated.rehoused {params : AllocParams} {alloc : Allocation} {s t : Live Gpu}
    (h : Allocated params alloc s t) : Rehoused s t := by
  obtain ⟨size, -, -, contents⟩ := h.contents
  have length : t.platform.contents.length = s.platform.contents.length + 1 := by
    rw [contents, List.length_append, List.length_singleton]
  -- An allocation is the new one in the new buffer, or it was there before.
  have lives {id : UInt32} {n : Nat} (lives : t.device.room? id = some n) :
      id = s.device.nextAlloc ∧ n = s.platform.contents.length ∨
        id ≠ s.device.nextAlloc ∧ s.device.room? id = some n := by
    rw [h.room?_eq] at lives
    split at lives
    · rename_i fresh
      exact .inl ⟨fresh, (Option.some.inj lives).symm⟩
    · rename_i old
      exact .inr ⟨old, lives⟩
  refine ⟨h.assigned, ?_, fun {id n} here => ?_, fun housed => ⟨?_, ?_, ?_⟩⟩
  · exact Nat.le_trans (Nat.le_succ _) (Nat.le_of_eq length.symm)
  · rcases lives here with ⟨-, rfl⟩ | ⟨-, before⟩
    · exact .inr (Nat.le_refl _)
    · exact .inl before
  · intro id n here
    rcases lives here with ⟨rfl, -⟩ | ⟨-, before⟩
    · exact h.nextAlloc
    · exact UInt32.lt_trans (housed.numbered before) h.nextAlloc
  · intro id n here
    rw [length]
    rcases lives here with ⟨-, rfl⟩ | ⟨-, before⟩
    · exact Nat.lt_succ_self _
    · exact Nat.lt_succ_of_lt (housed.stored before)
  · intro id id' n here here'
    rcases lives here with ⟨rfl, rfl⟩ | ⟨-, before⟩
    · rcases lives here' with ⟨rfl, -⟩ | ⟨-, before'⟩
      · rfl
      · exact absurd (housed.stored before') (Nat.lt_irrefl _)
    · rcases lives here' with ⟨-, rfl⟩ | ⟨-, before'⟩
      · exact absurd (housed.stored before) (Nat.lt_irrefl _)
      · exact housed.apart before before'

theorem rehoused_allocate (params : AllocParams) : (allocate params).Evolves Rehoused := fun s =>
  (wp_allocate params s).mono (fun _ _ => Allocated.rehoused) fun _ _ => Still.rehoused

theorem wp_deallocate (alloc : Allocation) (s : Live Gpu) :
    (deallocate alloc).wp
      (fun _ t => alloc.device = s.device.id ∧
        (∃ a, s.device.buffers.get? alloc.id = some a) ∧
        t = { s with device.buffers := s.device.buffers.erase alloc.id })
      (fun _ t => t = s) s := by
  simp only [deallocate, checkLocal, allocation, wp_bind, wp_discard, Live.wp_self, wp_require,
    wp_orRefuse, Live.wp_update, decide_eq_true_eq]
  exact ⟨fun here => ⟨fun a held => ⟨here, ⟨a, held⟩, trivial⟩, fun _ => trivial⟩, fun _ => trivial⟩

theorem rehoused_deallocate (alloc : Allocation) : (deallocate alloc).Evolves Rehoused := by
  intro s
  have fewer {id : UInt32} {n : Nat}
      (lives : room? { s.device with buffers := s.device.buffers.erase alloc.id } id = some n) :
      s.device.room? id = some n := by
    rw [room?, SortedMap.get?_erase] at lives
    split at lives
    · cases lives
    · exact lives
  refine (wp_deallocate alloc s).mono ?_ ?_
  · rintro - t ⟨-, -, rfl⟩
    refine ⟨rfl, Nat.le_refl _, fun lives => .inl (fewer lives), fun housed => ⟨?_, ?_, ?_⟩⟩
    · exact fun lives => housed.numbered (fewer lives)
    · exact fun lives => housed.stored (fewer lives)
    · exact fun lives lives' => housed.apart (fewer lives) (fewer lives')
  · rintro e _ rfl
    exact Evolution.refl _

/-! ## Every call -/

theorem rehoused_of_keepsRooms {α : Type} {a : Action (Live Gpu) α} (h : a.Evolves KeepsRooms) :
    a.Evolves Rehoused :=
  h.mono fun _ _ => KeepsRooms.rehoused

theorem rehoused_of_still {α : Type} {a : Action (Live Gpu) α} (h : a.Evolves Still) :
    a.Evolves Rehoused :=
  h.mono fun _ _ => Still.rehoused

end Gpu

theorem MemoryCall.rehoused (call : MemoryCall) : call.run.Evolves Gpu.Rehoused := by
  open Gpu in
  cases call with
  | allocate params => exact (rehoused_allocate params).map _
  | deallocate alloc => exact (rehoused_deallocate alloc).bind fun _ => .pure _
  | map alloc => exact (rehoused_of_keepsRooms (keepsRooms_mapRange _ _)).map _
  | mapRange start size => exact (rehoused_of_keepsRooms (keepsRooms_mapRange _ _)).map _
  | unmap alloc => exact (rehoused_of_keepsRooms (keepsRooms_unmap _)).bind fun _ => .pure _
  | read range => exact (rehoused_of_still (still_readRange range)).map _
  | write dst data =>
    exact (rehoused_of_keepsRooms (keepsRooms_writeRange dst data)).bind fun _ => .pure _
  | readRegion region => exact evolves_self.bind fun _ => .pure _
  | writeRegion region offset data =>
    refine evolves_self.bind fun g => .ite ?_ (.pure _)
    refine .bind (Live.evolves_update fun s => ?_) fun _ => .pure _
    exact (keepsRooms_writeRegion s region offset data).rehoused

theorem DeviceCall.rehoused (call : DeviceCall) : call.run.Evolves Gpu.Rehoused := by
  open Gpu in
  cases call with
  | memory call => exact call.rehoused.discard
  | copyWithin dst src => exact (rehoused_of_keepsRooms (keepsRooms_copyWithin dst src)).discard
  | waitIdle => exact rehoused_of_still (framed_wait none)
  | queueNative commands => exact (rehoused_of_keepsRooms (keepsRooms_submit _ commands)).discard
  | createImage | importImage | bindView | destroyImage =>
    exact rehoused_of_keepsRooms (DeviceCall.framedImage _ rfl)
  | _ => exact rehoused_of_still (DeviceCall.framed _ rfl)

theorem SubmitEnd.keepsRooms {r t : Recording} {wait : Bool} {result : Except Fault Unit}
    (ended : SubmitEnd r wait result t) : Gpu.KeepsRooms r.live t.live := by
  have queued : r.live.platform.Widens r.afterQueue := Platform.widens_submit _ _ _
  cases ended with
  | refused => exact Evolution.refl r.live
  | waited | waitFailed | marked | twice => exact ⟨rfl, queued, rfl, UInt32.le_refl _⟩

/-- Whatever a client asks of its device, allocations stay where they are or come and go. -/
theorem Call.rehoused (call : Call) (c : Client) : Gpu.Rehoused c.live (call.step c).2.live := by
  cases call with
  | submit i wait =>
    simp only [Call.step]
    split
    · exact Evolution.refl c.live
    · rename_i list found
      have ended := wp.outcome (P := fun o => SubmitEnd ⟨c.live, list⟩ wait o.1 o.2)
        (Recording.submit_ends ⟨c.live, list⟩ wait)
      have dropped := Gpu.framed_afterDrop (S := Gpu.Still)
      exact Evolution.trans ended.keepsRooms.rehoused (dropped _).rehoused
  | device call => exact call.rehoused.outcome c.live
  | _ => exact (Call.still _ rfl c).rehoused

end DeviceLayer
