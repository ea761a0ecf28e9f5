import DeviceLayer.Proofs.Fitting
import DeviceLayer.Proofs.SlotWindows

/-!
# How far windows go

A slot that holds memory is bound as a window that begins where its pointer points. The window is as
long as was asked for, in whole groups of bytes, and then lies in the native buffer. But a native
window has no length zero: one that is asked for without a byte goes on to the end of the buffer.

* `BindEntry.span` — the bytes that an entry shows.
* `Client.windows_exact` — which bytes these are.
* `Client.empty_window_goes_on` — a window that was to be empty.
-/

namespace DeviceLayer

open DeviceLayer.Action

/-- The first byte of its buffer that an entry shows, and where it ends. -/
def BindEntry.span (e : BindEntry) (p : Platform) : Nat × Nat :=
  (e.offset, (e.size.map (e.offset + ·)).getD (p.bufferSize e.buffer))

namespace Gpu

variable {s t : Live Gpu} {a : BufferAllocation} {kind : ResourceKind} {slot : Binding}
  {e : BindEntry}

/-- What is bound of an allocation lies in it, since no allocation ends where a word does. -/
theorem Windows.within (h : s.device.Windows a kind slot e) (stocked : a.Stocked s.platform) :
    e.offset + resolveSize slot.pointer.offset slot.size a.size ≤ a.size := by
  obtain ⟨size, native, -⟩ := stocked.room
  obtain ⟨room, -, small⟩ := nativeSize_fits native
  have below : a.size < maxWord := by
    rw [BufferAllocation.size]
    simp only [copyAlignment] at small
    omega
  have inside := h.inside
  omega

/-- What is bound of an allocation lies in its native buffer, in whole groups of bytes, if it begins
with one. -/
theorem Windows.spans (h : s.device.Windows a kind slot e) (stocked : a.Stocked s.platform)
    (groups : (s.device.limits.offsetAlignment kind).toNat % copyAlignment = 0) :
    e.offset + roundUp copyAlignment (resolveSize slot.pointer.offset slot.size a.size) ≤
      s.platform.bufferSize a.buffer := by
  have within := h.within stocked
  obtain ⟨size, native, long⟩ := stocked.room
  obtain ⟨room, aligned, -⟩ := nativeSize_fits native
  -- Both the beginning and the end of the buffer are whole groups, so rounding up stays inside.
  have begins : e.offset % copyAlignment = 0 :=
    Nat.mod_eq_zero_of_dvd
      (Nat.dvd_trans (Nat.dvd_of_mod_eq_zero groups) (Nat.dvd_of_mod_eq_zero h.aligned))
  have ends : size % copyAlignment = 0 := by simpa [isAligned] using aligned
  rw [BufferAllocation.size] at *
  simp only [roundUp, copyAlignment] at *
  omega

/-- The entry shows what was asked for if that is not empty, and all from its beginning on if it
is. -/
theorem Windows.span_eq (h : s.device.Windows a kind slot e) (p : Platform) :
    e.span p = (slot.pointer.offset.toNat,
      if resolveSize slot.pointer.offset slot.size a.size = 0 then p.bufferSize a.buffer
      else slot.pointer.offset.toNat +
        roundUp copyAlignment (resolveSize slot.pointer.offset slot.size a.size)) := by
  obtain ⟨length, fits, size⟩ := h.size
  have rounded := alignUp_eq fits
  have empty : length = 0 ↔ resolveSize slot.pointer.offset slot.size a.size = 0 := by
    simp only [rounded, roundUp, copyAlignment]
    omega
  rw [BindEntry.span, size, h.offset, h.buffer, ← rounded]
  by_cases none : length = 0
  · simp [none, empty.1 none]
  · simp [none, mt empty.2 none]

end Gpu

namespace Client

/-- A set is written from a binder, on a device in any state that a client can bring it to. Where
the binder has memory for a slot of the layout, the entry shows the native buffer of the slot's
allocation from the slot's pointer on. It shows as many bytes as the slot asks for, in whole groups,
if the slot asks for any; a slot that asks for none is shown all that comes, which is as it
should be at the end of the buffer only. What the slot asks for is in the native buffer, if offsets
have to begin with a whole group. -/
theorem windows_exact {c : Client} (reachable : c.Reachable) {set : SetHandle} {layout : SetLayout}
    {binder : Binder} {index : UInt32} {group : BindGroup} {t : Live Gpu}
    (ended : (Gpu.writeSet set layout binder index).outcome c.live = (.ok group, t)) :
    group.windows.entries.map (·.binding) = layout.keys ∧
    ∀ e ∈ group.windows.entries, ∀ b, binder.slot? index e.binding = some b →
      b.pointer.isNull = false →
      ∃ a kind, b.pointer.device = c.live.device.id ∧
        c.live.device.buffers.get? b.pointer.allocId = some a ∧
        layout.get? e.binding = some kind ∧ e.buffer = a.buffer ∧
        let first := b.pointer.offset.toNat
        let size := resolveSize b.pointer.offset b.size a.size
        let past := first + roundUp copyAlignment size
        first + size ≤ a.size ∧
        (size ≠ 0 → e.span t.platform = (first, past)) ∧
        (size = 0 → e.span t.platform = (first, t.platform.bufferSize a.buffer)) ∧
        (e.span t.platform = (first, past) ↔
          size ≠ 0 ∨ t.platform.bufferSize a.buffer = first) ∧
        ((c.live.device.limits.offsetAlignment kind).toNat % copyAlignment = 0 →
          past ≤ t.platform.bufferSize a.buffer) := by
  obtain ⟨step, groupOf⟩ := (Gpu.wp_writeSet set layout binder index c.live).ended ended
  refine ⟨groupOf.bindings, fun e member b holds notNull => ?_⟩
  obtain ⟨⟨n, kind⟩, inLayout, written⟩ := groupOf.entry member
  obtain ⟨named, u, v, -, -, -, -, shows⟩ := written.shows
  obtain ⟨a, windows⟩ := shows.memory holds notNull
  have stocked := reachable.stocked _ a windows.held
  refine ⟨a, kind, windows.device, windows.held, ?_, windows.buffer, ?_⟩
  · rw [named]
    exact SortedMap.get?_eq_some_iff.2 inLayout
  intro first size past
  have spans := windows.span_eq t.platform
  have full (some : size ≠ 0) : e.span t.platform = (first, past) :=
    spans.trans (by rw [if_neg some])
  have empty (none : size = 0) : e.span t.platform = (first, t.platform.bufferSize a.buffer) :=
    spans.trans (by rw [if_pos none])
  have within : first + size ≤ a.size := by
    have within := windows.within stocked
    rwa [windows.offset] at within
  refine ⟨within, full, empty, ?_, fun groups => ?_⟩
  · by_cases none : size = 0
    · have ends : past = first := by simp [past, none, roundUp, copyAlignment]
      simp [empty none, none, ends]
    · simp [full none, none]
  · have inside := windows.spans stocked groups
    rw [windows.offset] at inside
    exact Nat.le_trans inside (step.pads.contents.size _ stocked.known)

/-- A device with one allocation, and the layout of one set with one slot. -/
def withSlot : Client :=
  (opened ⟨1⟩).run [.device (.memory (.allocate (.deviceLocal 512))),
    .device (.setLayout (.ofEntries [(0, .readWriteBuffer)]))]

theorem reachable_withSlot : withSlot.Reachable := ⟨_, fresh_opened ⟨1⟩, _, rfl⟩

/-- The slot with so many bytes from the middle of the allocation on. -/
def fromMiddle (size : UInt64) : Binder :=
  Binder.putSlot {} 0 0 ⟨.readWriteBuffer, ⟨⟨1⟩, 0, 256⟩, size⟩

theorem windows_exact_middle :
    let slots := .ofEntries [(0, .readWriteBuffer)]
    let ended := (Gpu.writeSet ⟨⟨0⟩, 0⟩ slots (fromMiddle 13) 0).outcome withSlot.live
    ∃ group, ended.1 = .ok group ∧
      ∀ e ∈ group.windows.entries, e.span ended.2.platform = (256, 272) := by
  intro slots ended
  obtain ⟨group, ok⟩ : ∃ group, ended.1 = .ok group := ⟨_, rfl⟩
  refine ⟨group, ok, fun e member => ?_⟩
  obtain ⟨bindings, windows⟩ := windows_exact reachable_withSlot (Prod.ext ok rfl)
  have named : e.binding = 0 := by
    have known := List.mem_map_of_mem (f := (·.binding)) member
    rw [bindings] at known
    exact List.mem_singleton.1 known
  have holds : (fromMiddle 13).slot? 0 e.binding = some ⟨.readWriteBuffer, ⟨⟨1⟩, 0, 256⟩, 13⟩ := by
    rw [named]
    rfl
  obtain ⟨a, kind, -, -, -, -, -, full, -⟩ := windows e member _ holds rfl
  have asked : resolveSize 256 13 a.size = 13 := resolveSize_of_ne (by decide)
  simpa [asked, roundUp, copyAlignment] using full

/-- So not every window ends where the slot asks it to: here one that is to be empty shows all the
rest of the allocation. -/
theorem empty_window_goes_on :
    ¬∀ c : Client, c.Reachable → ∀ set layout binder index group t,
      (Gpu.writeSet set layout binder index).outcome c.live = (.ok group, t) →
      ∀ e ∈ group.windows.entries, ∀ b, binder.slot? index e.binding = some b →
        b.pointer.isNull = false →
        ∀ a, c.live.device.buffers.get? b.pointer.allocId = some a →
          e.span t.platform = (b.pointer.offset.toNat, b.pointer.offset.toNat +
            roundUp copyAlignment (resolveSize b.pointer.offset b.size a.size)) := by
  intro always
  have exact := always withSlot reachable_withSlot ⟨⟨0⟩, 0⟩ (.ofEntries [(0, .readWriteBuffer)])
    (fromMiddle 0) 0 _ _ rfl _ (List.mem_singleton_self _) _ rfl rfl _ rfl
  revert exact
  decide

end Client

end DeviceLayer
