import DeviceLayer.Proofs.Frames

/-!
# Host access through aligned windows

The host reads and writes any bytes of a native buffer through the smallest aligned window around
them. Where it succeeds, that comes to reading and writing just the bytes that were asked for; and
it succeeds inside a buffer of the device layer as long as no poll fails.

* `Bytes.splice_window` — a window that is patched and written back.
* `alignUp_window` — the window around some bytes of a buffer lies inside the buffer.
* `Platform.Extends`, `Rewritten` — buffers hold what they held, or all but one do.
* `Platform.wp_readBuffer`, `wp_writeBuffer` — what host access comes to where it succeeds.
* `Platform.Answers`, `Roomy`, `Patched` — no poll fails, a buffer of the device layer, and what
  host access does to it.
* `Platform.wp_readBuffer_of_le`, `wp_writeBuffer_of_le` — where it succeeds.
-/

namespace DeviceLayer

open DeviceLayer.Action

/-- A patched window written back leaves the bytes around the patch as they were. -/
theorem Bytes.splice_window {b data : Bytes} {first past offset : Nat} (before : first ≤ offset)
    (inside : offset + data.length ≤ past) (fits : past ≤ b.length) :
    b.splice first ((b.slice first (past - first)).splice (offset - first) data) =
      b.splice offset data := by
  have window : (b.slice first (past - first)).length = past - first := by
    rw [length_slice]; omega
  have room : offset - first + data.length ≤ (b.slice first (past - first)).length := by omega
  have patched := length_splice room
  -- Byte by byte: inside the patch, in the window around it, and outside of both.
  apply List.ext_getElem?
  intro i
  rw [getElem?_splice (by omega), getElem?_splice (Nat.le_trans inside fits), patched, window]
  by_cases replaced : offset ≤ i ∧ i < offset + data.length
  · rw [if_pos replaced, if_pos (by omega), getElem?_splice room, if_pos (by omega)]
    congr 1
    omega
  · rw [if_neg replaced]
    by_cases inWindow : first ≤ i ∧ i < first + (past - first)
    · rw [if_pos inWindow, getElem?_splice room, if_neg (by omega), getElem?_slice (by omega)]
      congr 1
      omega
    · rw [if_neg inWindow]

/-- The window around bytes in the first `n`, where a copy boundary lies at `n`. -/
theorem alignUp_window {offset len n : Nat} (inside : offset + len ≤ n)
    (aligned : isAligned n = true) (small : n + copyAlignment ≤ maxWord + 1) :
    ∃ past, (addWords offset len >>= alignUp) = .ok past ∧ offset + len ≤ past ∧ past ≤ n := by
  refine ⟨(offset + len + 3) / 4 * 4, ?_, by omega, ?_⟩
  · have noOverflow : offset + len ≤ maxWord := by simp only [copyAlignment] at small; omega
    rw [addWords, if_pos noOverflow]
    exact alignUp_of_le (by omega)
  · have boundary : n % 4 = 0 := of_decide_eq_true aligned
    omega

namespace Platform

/-! ## Where host access succeeds -/

/-- Buffers hold what they held; more may have been made. -/
structure Extends (p q : Platform) : Prop where
  grows : p.contents.length ≤ q.contents.length
  old : ∀ b : Buffer, b.id < p.contents.length → q.contents.of b = p.contents.of b

instance : Evolution Extends where
  refl _ := ⟨Nat.le_refl _, fun _ _ => rfl⟩
  trans first second := by
    refine ⟨Nat.le_trans first.grows second.grows, fun b known => ?_⟩
    rw [second.old b (Nat.lt_of_lt_of_le known first.grows), first.old b known]

theorem Grows.extends {p q : Platform} (h : p.Grows q) : p.Extends q := by
  obtain ⟨more, contents⟩ := h.contents
  refine ⟨h.contents.length_le, fun b known => ?_⟩
  rw [← contents, Contents.of_append known]

theorem Extends.of_contents {p q : Platform} (same : q.contents = p.contents) : p.Extends q :=
  ⟨Nat.le_of_eq (congrArg List.length same.symm), fun b _ => congrArg (Contents.of · b) same⟩

/-- The bytes of one buffer are others now; more buffers may have been made. -/
structure Rewritten (b : Buffer) (bytes : Bytes) (p q : Platform) : Prop where
  grows : p.contents.length ≤ q.contents.length
  patched : (q.contents.of b).toBytes = bytes
  others : ∀ other : Buffer, other.id < p.contents.length → other.id ≠ b.id →
    q.contents.of other = p.contents.of other

theorem Extends.rewritten {p q : Platform} {b : Buffer} (h : p.Extends q)
    (known : b.id < p.contents.length) : p.Rewritten b (p.contents.of b).toBytes q :=
  ⟨h.grows, congrArg Storage.toBytes (h.old b known), fun other old _ => h.old other old⟩

theorem Rewritten.queueWrite {p q : Platform} {b : Buffer} {bytes : Bytes}
    (h : p.Rewritten b bytes q) (known : b.id < p.contents.length) (offset : Nat)
    (data : Storage) :
    p.Rewritten b (bytes.splice offset data.toBytes) (q.queueWrite b offset data) where
  grows := by
    refine Nat.le_trans h.grows (Nat.le_of_eq ?_)
    exact (List.length_modify ..).symm
  patched := by
    have written := Contents.of_write_self (Nat.lt_of_lt_of_le known h.grows) offset data
    refine (congrArg Storage.toBytes written).trans ?_
    rw [Storage.toBytes_splice, h.patched]
  others other old apart :=
    (Contents.of_write_of_ne apart _ _ _).trans (h.others other old apart)

@[simp] theorem contents_makeBuffer (c : Connection) (purpose : BufferPurpose) (size : Nat)
    (p : Platform) : (p.makeBuffer c purpose size).2.contents = p.contents ++ [.zeros size] := rfl

@[simp] theorem id_makeBuffer (c : Connection) (purpose : BufferPurpose) (size : Nat)
    (p : Platform) : (p.makeBuffer c purpose size).1.id = p.contents.length := rfl

/-- The platform after a window of a buffer was copied to a staging buffer, and waited for. -/
def readBack (b : Buffer) (first len : Nat) (p : Platform) : Platform :=
  let (staging, p) := p.makeBuffer b.connection .staging len
  let (fence, p) := p.submit .readback [.copy b first staging 0 len]
  p.polled b.connection (some fence)

def staging (b : Buffer) (len : Nat) (p : Platform) : Buffer :=
  (p.makeBuffer b.connection .staging len).1

theorem contents_readBack (b : Buffer) (first len : Nat) (p : Platform) :
    (p.readBack b first len).contents =
      Contents.write (p.contents ++ [.zeros len]) (p.staging b len) 0
        ((Contents.of (p.contents ++ [.zeros len]) b).slice first len) := rfl

/-- Copying a window back leaves all buffers as they were. -/
theorem extends_readBack (p : Platform) (b : Buffer) (first len : Nat) :
    p.Extends (p.readBack b first len) := by
  refine ⟨?_, fun other old => ?_⟩
  · rw [contents_readBack, Contents.write, List.length_modify, List.length_append]
    exact Nat.le_succ _
  · have apart : other.id ≠ (p.staging b len).id := Nat.ne_of_lt old
    rw [contents_readBack, Contents.of_write_of_ne apart, Contents.of_append old]

theorem of_staging {p : Platform} {b : Buffer} (known : b.id < p.contents.length)
    (first len : Nat) (inside : first + len ≤ p.bufferSize b) :
    ((p.readBack b first len).contents.of (p.staging b len)).toBytes =
      (p.contents.of b).toBytes.slice first len := by
  have made : (p.staging b len).id < (p.contents ++ [Storage.zeros len]).length := by
    rw [List.length_append]
    exact Nat.lt_succ_self _
  have empty : Contents.of (p.contents ++ [Storage.zeros len]) (p.staging b len) = .zeros len :=
    Contents.of_append_new rfl _
  have window : ((p.contents.of b).toBytes.slice first len).length = len :=
    Bytes.length_slice_of_le (by rwa [Storage.length_toBytes])
  rw [contents_readBack, Contents.of_write_self made, empty,
    Contents.of_append known,
    Storage.toBytes_splice, Storage.toBytes_zeros, Storage.toBytes_slice, Bytes.splice_zero]
  rw [window, Bytes.length_zeros]

theorem extends_readBuffer (b : Buffer) (offset size : Nat) :
    (readBuffer b offset size).Evolves Extends := by
  unfold readBuffer
  split
  · exact .pure _
  · refine (Evolves.check _).bind fun past => (evolves_checkBounds _ _ _).bind fun _ => ?_
    intro p
    simp only [wp_bind, wp_createBuffer, wp_modifyGet, wp_poll, wp_get, wp_pure]
    have copied := extends_readBack p b (alignDown offset) (past - alignDown offset)
    exact ⟨fun _ => ⟨fun _ => copied, fun _ => copied⟩, fun _ => Evolution.refl p⟩

theorem window_eq_ok {offset len past : Nat} (h : (addWords offset len >>= alignUp) = .ok past) :
    offset + len ≤ past := by
  unfold addWords at h
  split at h
  · exact (alignUp_eq_ok h).1
  · cases h

/-- What was read is what the buffer holds there, all of it. -/
theorem wp_readBuffer {p : Platform} {b : Buffer} (known : b.id < p.contents.length)
    (offset size : Nat) :
    (readBuffer b offset size).wp
      (fun data _ => data.toBytes = (p.contents.of b).toBytes.slice offset size ∧
        data.size = size)
      (fun _ _ => True) p := by
  unfold readBuffer
  split
  · rename_i empty
    subst empty
    simp [Bytes.slice, Bytes.zeros]
  · simp only [checkBounds, wp_bind, wp_check, wp_get, wp_require, wp_createBuffer, wp_modifyGet,
      wp_poll, wp_pure, Bool.and_eq_true, decide_eq_true_eq, implies_true, and_true]
    rintro past aligned ⟨fits, -⟩ _ _
    have after := window_eq_ok aligned
    have before := alignDown_le offset
    have window := of_staging known (alignDown offset) (past - alignDown offset) (by omega)
    have bytes : (((p.readBack b (alignDown offset) (past - alignDown offset)).contents.of
        (p.staging b (past - alignDown offset))).slice (offset - alignDown offset) size).toBytes =
          (p.contents.of b).toBytes.slice offset size := by
      rw [Storage.toBytes_slice, window, Bytes.slice_slice (by omega), Nat.add_sub_cancel' before]
    refine ⟨bytes, ?_⟩
    refine (Storage.length_toBytes _).symm.trans ?_
    refine (congrArg List.length bytes).trans (Bytes.length_slice_of_le ?_)
    rw [Storage.length_toBytes]
    exact Nat.le_trans after fits

/-- What was written replaces just those bytes. A write that fails leaves all buffers as they
were. -/
theorem wp_writeBuffer {p : Platform} {b : Buffer} (known : b.id < p.contents.length)
    (offset : Nat) (data : Storage) :
    (writeBuffer b offset data).wp
      (fun _ q => p.Rewritten b ((p.contents.of b).toBytes.splice offset data.toBytes) q)
      (fun _ q => p.Extends q) p := by
  have start : p.Rewritten b (p.contents.of b).toBytes p :=
    (Evolution.refl (R := Extends) p).rewritten known
  unfold writeBuffer
  split
  · rename_i empty
    have none : data.toBytes = [] :=
      List.eq_nil_of_length_eq_zero ((Storage.length_toBytes data).trans empty)
    rw [wp_pure, none, Bytes.splice_nil]
    exact start
  · simp only [checkBounds, wp_bind, wp_check, wp_get, wp_require, Bool.and_eq_true,
      decide_eq_true_eq]
    refine ⟨fun past aligned => ⟨?_, fun _ => Evolution.refl p⟩, fun _ _ => Evolution.refl p⟩
    rintro ⟨fits, -⟩
    have after := window_eq_ok aligned
    have before := alignDown_le offset
    split
    · -- The bytes are a window of their own.
      rw [wp_modify]
      exact start.queueWrite known offset data
    · -- The window around them is read back, patched and written as a whole.
      rw [wp_bind]
      have read := (extends_readBuffer b (alignDown offset) (past - alignDown offset) p).and
        (wp_readBuffer known _ _)
      refine read.mono ?_ fun _ _ => And.left
      rintro window q ⟨read, held, -⟩
      rw [wp_modify]
      have whole := (read.rewritten known).queueWrite known (alignDown offset)
        (window.splice (offset - alignDown offset) data)
      rw [Storage.toBytes_splice, held, Bytes.splice_window before] at whole
      · exact whole
      · rwa [Storage.length_toBytes]
      · rwa [Storage.length_toBytes]

/-- Bytes that were written fitted into the buffer. -/
theorem writeBuffer_fits (b : Buffer) (offset : Nat) (data : Storage) (p : Platform) :
    (writeBuffer b offset data).wp
      (fun _ _ => data.size = 0 ∨ offset + data.size ≤ p.bufferSize b) (fun _ _ => True) p := by
  unfold writeBuffer
  split
  · rename_i empty
    exact .inl empty
  · simp only [checkBounds, wp_bind, wp_check, wp_get, wp_require, Bool.and_eq_true,
      decide_eq_true_eq, implies_true, and_true]
    rintro past aligned ⟨fits, -⟩
    have inside : data.size = 0 ∨ offset + data.size ≤ p.bufferSize b :=
      .inr (Nat.le_trans (window_eq_ok aligned) fits)
    split
    · exact inside
    · rw [wp_bind]
      exact (Evolves.any _ p).mono (fun _ _ _ => inside) fun _ _ _ => trivial

/-! ## That it succeeds -/

def Answers (p : Platform) : Prop := ∀ ok ∈ p.script.polls, ok = true

theorem Answers.nextPoll {p : Platform} (h : p.Answers) : p.script.nextPoll = true := by
  unfold Script.nextPoll
  cases polls : p.script.polls with
  | nil => rfl
  | cons ok rest => exact h ok (polls ▸ List.mem_cons_self)

/-- Buffers of a size that is aligned, within the limit and far from the end of the word. -/
structure Roomy (p : Platform) (b : Buffer) : Prop where
  known : b.id < p.contents.length
  aligned : isAligned (p.bufferSize b) = true
  within : p.bufferSize b ≤ b.connection.limits.maxBufferSize.toNat
  small : p.bufferSize b + copyAlignment ≤ maxWord + 1

/-- Host access changed the bytes of one buffer, and made further buffers at most. -/
structure Patched (b : Buffer) (bytes : Bytes) (p q : Platform) : Prop
    extends Rewritten b bytes p q where
  answers : q.Answers

theorem answers_readBuffer {p : Platform} {b : Buffer} (answers : p.Answers) (roomy : p.Roomy b)
    {offset size : Nat} (inside : offset + size ≤ p.bufferSize b) :
    (readBuffer b offset size).wp (fun _ q => q.Answers) (fun _ _ => False) p := by
  obtain ⟨past, aligned, after, fits⟩ := alignUp_window inside roomy.aligned roomy.small
  have before := alignDown_le offset
  unfold readBuffer
  split
  · exact answers
  · simp only [aligned, checkBounds, wp_bind, wp_check_ok, wp_get, wp_require, wp_createBuffer,
      wp_modifyGet, wp_poll, wp_pure, Bool.and_eq_true, decide_eq_true_eq, Bool.and_eq_false_iff,
      decide_eq_false_iff_not]
    -- The staging buffer is no longer than the buffer, so that it is made.
    have small := roomy.within
    refine ⟨fun _ => ⟨fun _ => ⟨fun _ ok member => ?_, fun failed => ?_⟩, fun past => ?_⟩,
      fun outOfBounds => ?_⟩
    · exact answers ok (List.mem_of_mem_tail member)
    · exact absurd (Answers.nextPoll answers) (Bool.eq_false_iff.1 failed)
    · omega
    · omega

/-- A window inside a buffer can be copied back, and then holds the bytes of the buffer. -/
theorem wp_readBuffer_of_le {p : Platform} {b : Buffer} (answers : p.Answers) (roomy : p.Roomy b)
    {offset size : Nat} (inside : offset + size ≤ p.bufferSize b) :
    (readBuffer b offset size).wp
      (fun data q => data.toBytes = (p.contents.of b).toBytes.slice offset size ∧
        p.Patched b (p.contents.of b).toBytes q)
      (fun _ _ => False) p := by
  refine (((extends_readBuffer b offset size p).and (wp_readBuffer roomy.known offset size)).and
    (answers_readBuffer answers roomy inside)).mono ?_ fun _ _ => And.right
  rintro data q ⟨⟨kept, held, -⟩, answers⟩
  exact ⟨held, kept.rewritten roomy.known, answers⟩

/-- Bytes that fit into a buffer can be written, and replace just those that were there. -/
theorem wp_writeBuffer_of_le {p : Platform} {b : Buffer} (answers : p.Answers) (roomy : p.Roomy b)
    {offset : Nat} {data : Storage} (inside : offset + data.size ≤ p.bufferSize b) :
    (writeBuffer b offset data).wp
      (fun _ q => p.Patched b ((p.contents.of b).toBytes.splice offset data.toBytes) q)
      (fun _ _ => False) p := by
  have answering : (writeBuffer b offset data).wp (fun _ q => q.Answers) (fun _ _ => False) p := by
    obtain ⟨past, aligned, after, fits⟩ := alignUp_window inside roomy.aligned roomy.small
    have before := alignDown_le offset
    unfold writeBuffer
    split
    · exact answers
    · simp only [aligned, checkBounds, wp_bind, wp_check_ok, wp_get, wp_require, Bool.and_eq_true,
        decide_eq_true_eq, Bool.and_eq_false_iff, decide_eq_false_iff_not]
      refine ⟨fun _ => ?_, fun outOfBounds => by omega⟩
      split
      · exact answers
      · rw [wp_bind]
        exact (answers_readBuffer answers roomy (by omega)).mono (fun _ _ => id) fun _ _ => id
  refine ((wp_writeBuffer roomy.known offset data).and answering).mono ?_ fun _ _ => And.right
  rintro _ q ⟨written, answers⟩
  exact ⟨written, answers⟩

end Platform

end DeviceLayer
