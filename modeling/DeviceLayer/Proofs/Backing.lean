import DeviceLayer.Proofs.Submissions
import DeviceLayer.Proofs.Tables

/-!
# What stands behind a window

A window that is bound shows a part of a native buffer: of one that was made for an allocation, or
of the placeholder. Native buffers are never taken away or made shorter, and the placeholder only
ever gives way to a longer one.

* `Gpu.Pads` — no native buffer has become shorter, and neither has the placeholder.
* `Gpu.wp_placeholderFor` — a placeholder that is asked for is long enough.
* `Gpu.Stocked` — allocations live in native buffers that were made for them and are long enough.
* `Client.pads_run`, `Client.Reachable.stocked` — whatever a client calls.
-/

namespace DeviceLayer

open DeviceLayer.Action

/-- A boundary that exists is the number rounded up. -/
theorem alignUp_eq {n m : Nat} (h : alignUp n = .ok m) : m = roundUp copyAlignment n := by
  unfold alignUp mulWords at h
  split at h
  · exact (Except.ok.inj h).symm
  · cases h

namespace Platform

theorem known_makeBuffer (c : Connection) (purpose : BufferPurpose) (size : Nat) (p : Platform) :
    (p.makeBuffer c purpose size).1.id < (p.makeBuffer c purpose size).2.contents.length := by
  simp [makeBuffer, newBuffer, record]

theorem bufferSize_makeBuffer (c : Connection) (purpose : BufferPurpose) (size : Nat)
    (p : Platform) :
    (p.makeBuffer c purpose size).2.bufferSize (p.makeBuffer c purpose size).1 = size := by
  have newest : (p.makeBuffer c purpose size).1.id = p.contents.length := rfl
  have contents : (p.makeBuffer c purpose size).2.contents = p.contents ++ [.zeros size] := rfl
  rw [bufferSize, contents, Contents.of_append_new newest, Storage.size_zeros]

end Platform

namespace Gpu

variable {s t : Live Gpu}

/-! ## The placeholder -/

/-- The placeholder is a buffer that was made to be one. -/
structure Padded (s : Live Gpu) : Prop where
  purpose : s.device.placeholder.purpose = .placeholder
  known : s.device.placeholder.id < s.platform.contents.length

/-- No native buffer has become shorter, and the placeholder is as long or longer. -/
structure Pads (s t : Live Gpu) : Prop where
  contents : s.platform.contents.Gains t.platform.contents
  padded : Padded s → Padded t
  placeholder : Padded s →
    s.platform.bufferSize s.device.placeholder ≤ t.platform.bufferSize t.device.placeholder

/-- The placeholder is the same buffer. -/
theorem Pads.of_same (contents : s.platform.contents.Gains t.platform.contents)
    (same : t.device.placeholder = s.device.placeholder) : Pads s t where
  contents := contents
  padded padded := by
    refine ⟨same ▸ padded.purpose, ?_⟩
    rw [same]
    exact Nat.lt_of_lt_of_le padded.known contents.length
  placeholder padded := by
    rw [same]
    exact contents.size _ padded.known

instance : Evolution Pads where
  refl _ := .of_same (Evolution.refl _) rfl
  trans first second := by
    refine ⟨Evolution.trans first.contents second.contents, second.padded ∘ first.padded, ?_⟩
    exact fun padded =>
      Nat.le_trans (first.placeholder padded) (second.placeholder (first.padded padded))

/-- The first object of a device is its placeholder. -/
theorem padded_create {limits : Limits} {p q : Platform} {g : Gpu}
    (created : create limits p = .ok g q) : Padded ⟨q, g⟩ := by
  have made : (create limits).wp (fun g q => Padded ⟨q, g⟩) (fun _ _ => True) p := by
    simp only [create, wp_bind, wp_get, wp_ite, wp_throw, wp_modifyGet, Platform.wp_createBuffer,
      wp_pure, implies_true, true_and, and_true]
    exact fun _ _ => ⟨rfl, Platform.known_makeBuffer _ _ _ _⟩
  rwa [wp, created] at made

/-- A placeholder gives way to a longer one. -/
theorem Pads.of_longer {size : Nat} (short : s.platform.bufferSize s.device.placeholder < size) :
    let made := s.platform.makeBuffer s.device.connection .placeholder size
    Pads s ⟨made.2, { s.device with placeholder := made.1 }⟩ where
  contents := Contents.gains_prefix (List.prefix_append _ _)
  padded _ := ⟨rfl, Platform.known_makeBuffer _ _ _ _⟩
  placeholder _ := by
    rw [Platform.bufferSize_makeBuffer]
    exact Nat.le_of_lt short

/-- The length of the placeholder that is bound where `minSize` bytes are asked for. -/
def placeholderLength (minSize : Nat) : Nat := max (roundUp copyAlignment minSize) placeholderSize

/-- What is answered is the placeholder of the device and how much of it to bind, which is no more
than there is. -/
theorem wp_placeholderFor (minSize : Nat) (s : Live Gpu) :
    (placeholderFor minSize).wp
      (fun answer t => Pads s t ∧ answer = (t.device.placeholder, placeholderLength minSize) ∧
        placeholderLength minSize ≤ t.platform.bufferSize t.device.placeholder)
      (fun _ t => t = s) s := by
  simp only [placeholderFor, wp_bind, wp_check, wp_get, Live.wp_self, wp_pure, wp_ite, wp_attempt,
    Platform.wp_createBuffer, Live.wp_update]
  refine ⟨fun aligned fits => ?_, fun _ _ => trivial⟩
  have length : max aligned placeholderSize = placeholderLength minSize :=
    congrArg (max · placeholderSize) (alignUp_eq fits)
  rw [length]
  refine ⟨fun short => ⟨fun _ => ⟨.of_longer short, rfl, ?_⟩, fun _ => trivial⟩,
    fun long => ⟨Evolution.refl s, rfl, ?_⟩⟩
  · exact Nat.le_of_eq (Platform.bufferSize_makeBuffer _ _ _ _).symm
  · exact Nat.le_of_not_lt long

instance : Growing Pads where
  grows h := .of_same (Contents.gains_prefix h.contents) rfl

instance : ImageFrame Pads where
  toFrame := .ofHeld (fun _ same => .of_same (Evolution.refl _) same)
    (fun h => Growing.grows h.toGrows) fun minSize s =>
      (wp_placeholderFor minSize s).mono (fun _ _ => And.left) fun _ _ same => by
        rw [same]
        exact Evolution.refl s
  images _ := .of_same (Evolution.refl _) rfl

instance : MemoryFrame Pads where
  buffers _ := .of_same (Evolution.refl _) rfl
  works h := .of_same h.contents rfl

instance : ListFrame Pads where
  custody _ _ := .of_same (Evolution.refl _) rfl
  pool _ _ := .of_same (Evolution.refl _) rfl
  polled _ := .of_same (Evolution.refl _) rfl

end Gpu

/-! ## Allocations -/

/-- The allocation lives in a native buffer that was made for it and that has room for it, rounded
up to whole groups of bytes. -/
structure BufferAllocation.Stocked (a : BufferAllocation) (p : Platform) : Prop where
  purpose : ∃ type, a.buffer.purpose = .memory type
  known : a.buffer.id < p.contents.length
  room : ∃ size, Gpu.nativeSize a.params.size = .ok size ∧ size ≤ p.bufferSize a.buffer

theorem BufferAllocation.Stocked.gains {a b : BufferAllocation} {p q : Platform} (h : a.Stocked p)
    (gains : p.contents.Gains q.contents) (buffer : a.buffer = b.buffer)
    (params : a.params = b.params) : b.Stocked q := by
  obtain ⟨purpose, known, size, native, room⟩ := h
  rw [buffer] at purpose known room
  refine ⟨purpose, Nat.lt_of_lt_of_le known gains.length, size, params ▸ native, ?_⟩
  exact Nat.le_trans room (gains.size _ known)

namespace Gpu

variable {s t : Live Gpu}

/-- All allocations live in native buffers that are long enough. -/
def Stocked (s : Live Gpu) : Prop :=
  ∀ id a, s.device.buffers.get? id = some a → a.Stocked s.platform

/-- Allocations may have gone and their mappings may have changed, but none has come or moved. -/
def Vacates (s t : Live Gpu) : Prop :=
  ∀ id a, t.device.buffers.get? id = some a →
    ∃ b, s.device.buffers.get? id = some b ∧ b.buffer = a.buffer ∧ b.params = a.params

instance : Evolution Vacates where
  refl _ _ a held := ⟨a, held, rfl, rfl⟩
  trans first second _ _ held := by
    obtain ⟨b, before, buffer, params⟩ := second _ _ held
    obtain ⟨c, earlier, buffer', params'⟩ := first _ _ before
    exact ⟨c, earlier, buffer'.trans buffer, params'.trans params⟩

theorem KeepsTables.vacates (h : KeepsTables s t) : Vacates s t :=
  fun _ a held => ⟨a, h.buffers ▸ held, rfl, rfl⟩

instance : ImageFrame Vacates where
  toFrame := Frame.mono (S := KeepsTables) inferInstance fun _ _ => KeepsTables.vacates
  images _ _ a held := ⟨a, held, rfl, rfl⟩

/-- The mapping of an allocation is another. -/
theorem vacates_put {id : UInt32} {a : BufferAllocation} {mapping : Option HostMapping}
    (found : s.device.buffers.get? id = some a)
    (put : t.device = { s.device with
      buffers := s.device.buffers.insert id { a with mapping } }) : Vacates s t := by
  intro other b held
  rw [put] at held
  rcases SortedMap.get?_of_insert held with ⟨rfl, rfl⟩ | before
  · exact ⟨a, found, rfl, rfl⟩
  · exact ⟨b, before, rfl, rfl⟩

theorem vacates_deallocate (alloc : Allocation) : (deallocate alloc).Evolves Vacates := by
  refine fun s => (wp_deallocate alloc s).mono ?_ ?_
  · rintro _ _ ⟨-, -, rfl⟩ id a held
    exact ⟨a, SortedMap.get?_of_erase held, rfl, rfl⟩
  · rintro _ _ rfl
    exact Evolution.refl _

theorem vacates_mapRange (pointer : Pointer) (size : UInt64) :
    (mapRange pointer size).Evolves Vacates := by
  refine fun s => (mapRange_takes pointer size s).mono ?_ fun _ t same => ?_
  · rintro _ t ⟨a, m, found, -, put⟩
    exact vacates_put found put
  · exact (keepsTables_of_device same).vacates

theorem vacates_unmapped {id : UInt32} (made : t.device = s.device.unmapped id) :
    Vacates s t := by
  cases held : s.device.buffers.get? id with
  | none => exact (keepsTables_of_device (made.trans (unmapped_of_none held))).vacates
  | some a => exact vacates_put held (made.trans (unmapped_of_some held))

theorem vacates_unmap (alloc : Allocation) : (unmap alloc).Evolves Vacates := by
  refine fun s => (unmap_takes alloc s).mono (fun _ _ ended => vacates_unmapped ended.2) ?_
  rintro e t (same | ended)
  · exact (keepsTables_of_device same).vacates
  · exact vacates_unmapped ended.2

theorem vacates_writeRegion (s : Live Gpu) (region : MappedRegion) (offset : Nat)
    (data : Storage) :
    Vacates s { s with device := s.device.writeRegion region offset data } := by
  unfold writeRegion
  split
  · rename_i a found
    exact vacates_put found rfl
  · exact Evolution.refl s

/-- Allocations that lived in long enough buffers still do. -/
def Stocks (s t : Live Gpu) : Prop := Stocked s → Stocked t

instance : Evolution Stocks where
  refl _ stocked := stocked
  trans first second stocked := second (first stocked)

theorem Vacates.stocks (h : Vacates s t) (pads : Pads s t) : Stocks s t := by
  intro stocked id a held
  obtain ⟨b, before, buffer, params⟩ := h id a held
  exact (stocked id b before).gains pads.contents buffer params

theorem stocks_of_vacates {α : Type} {a : Action (Live Gpu) α} (vacates : a.Evolves Vacates)
    (pads : a.Evolves Pads) : a.Evolves Stocks := fun s =>
  ((vacates s).and (pads s)).mono (fun _ _ h => h.1.stocks h.2) fun _ _ h => h.1.stocks h.2

theorem stocks_allocate (params : AllocParams) : (allocate params).Evolves Stocks := by
  refine fun s => ((wp_allocate params s).and (framed_allocate (S := Pads) params s)).mono ?_ ?_
  · rintro alloc t ⟨made, pads⟩ stocked id a held
    obtain ⟨size, native, -, contents⟩ := made.contents
    obtain ⟨buffer, newest, -, buffers⟩ := made.buffers
    obtain ⟨type, purpose⟩ := made.purpose
    have here := held
    rw [buffers] at here
    -- The new buffer is as long as it was asked to be, and the others are not touched.
    rcases SortedMap.get?_of_insert here with ⟨rfl, rfl⟩ | before
    · refine ⟨⟨type, purpose held⟩, ?_, size, native, Nat.le_of_eq ?_⟩
      · simp [newest, contents]
      · rw [Platform.bufferSize, contents, Contents.of_append_new newest, Storage.size_zeros]
    · exact (stocked id a before).gains pads.contents rfl rfl
  · rintro e t ⟨still, pads⟩
    exact still.keepsTables.vacates.stocks pads

end Gpu

/-! ## Every call -/

theorem MemoryCall.stocks (call : MemoryCall) : call.run.Evolves Gpu.Stocks := by
  open Gpu in
  have pads : call.run.Evolves Pads := call.framed
  cases call with
  | allocate params => exact (stocks_allocate params).map _
  | deallocate alloc =>
    exact stocks_of_vacates ((vacates_deallocate alloc).bind fun _ => .pure _) pads
  | map alloc => exact stocks_of_vacates ((vacates_mapRange _ _).map _) pads
  | mapRange start size => exact stocks_of_vacates ((vacates_mapRange start size).map _) pads
  | unmap alloc => exact stocks_of_vacates ((vacates_unmap alloc).bind fun _ => .pure _) pads
  | read range =>
    refine stocks_of_vacates (.map ?_ _) pads
    exact (still_readRange range).mono fun _ _ step => step.keepsTables.vacates
  | write dst data =>
    refine stocks_of_vacates (.bind ?_ fun _ => .pure _) pads
    exact (keepsTables_writeRange dst data).mono fun _ _ => KeepsTables.vacates
  | readRegion region => exact evolves_self.bind fun _ => .pure _
  | writeRegion region offset data =>
    refine stocks_of_vacates (evolves_self.bind fun g => .ite ?_ (.pure _)) pads
    exact (Live.evolves_update fun s => vacates_writeRegion s region offset data).bind fun _ =>
      .pure _

theorem DeviceCall.stocks (call : DeviceCall) : call.run.Evolves Gpu.Stocks := by
  open Gpu in
  cases call with
  | memory call => exact call.stocks.discard
  | createImage | importImage | bindView | destroyImage =>
    exact stocks_of_vacates (DeviceCall.framedImage _ rfl) (DeviceCall.framedImage _ rfl)
  | _ =>
    refine stocks_of_vacates ?_ (DeviceCall.framedMemory _ rfl)
    exact (DeviceCall.keepsTables _ rfl).mono fun _ _ => KeepsTables.vacates

theorem Call.stocks (call : Call) (c : Client) : Gpu.Stocks c.live (call.step c).2.live := by
  cases call with
  | device call => exact call.stocks.outcome c.live
  | newList | record | finalize | submit | drop | sync | launch | script =>
    exact (Call.keepsTables _ rfl c).vacates.stocks (Call.framedImage _ c)

namespace Client

/-- Whatever a client calls, no native buffer and no placeholder becomes shorter. -/
theorem pads_run (c : Client) (calls : List Call) : Gpu.Pads c.live (c.run calls).live := by
  induction calls generalizing c with
  | nil => exact Evolution.refl c.live
  | cons call calls ih => exact Evolution.trans (call.framedImage c) (ih (call.step c).2)

theorem Reachable.padded {c : Client} (reachable : c.Reachable) : Gpu.Padded c.live := by
  refine reachable.induct (P := fun c => Gpu.Padded c.live) ?_ fun call c padded => ?_
  · rintro _ ⟨_, created, _⟩
    exact ⟨(Gpu.padded_create created).purpose, (Gpu.padded_create created).known⟩
  · exact (call.framedImage (S := Gpu.Pads) c).padded padded

theorem Reachable.stocked {c : Client} (reachable : c.Reachable) : Gpu.Stocked c.live := by
  refine reachable.induct (P := fun c => Gpu.Stocked c.live) ?_ fun call c => call.stocks c
  rintro _ ⟨_, created, _⟩
  obtain ⟨_, _, _, rfl, -⟩ := Gpu.create_eq_ok created
  rintro id a ⟨⟩

end Client

end DeviceLayer
