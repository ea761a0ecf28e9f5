import DeviceLayer.Proofs.Simulation
import DeviceLayer.Proofs.Stillness

/-!
# What the queue is asked for

The graphics library moves whole groups of four bytes, and stops the program if it is asked to move
any that lie outside a buffer. Native buffers are made with one size and keep it, so whether a
request is good can be told long before it is carried out.

* `Contents.Spans`, `Command.Fits`, `Event.Fits` — requests that the graphics library takes.
* `Contents.Lasts` — native buffers keep their sizes.
* `Platform.Asks` — all that the queue was asked for in between is good.
* `Platform.asks_readBuffer`, `asks_writeBuffer` — access through aligned windows asks for what is
  good.
* `Fault.ofWindow`, `Action.Clear` — faults of windows, and that none of them comes.
* `Platform.clear_readBuffer`, `clear_writeBuffer` — none comes where the bytes lie in the buffer.
-/

namespace DeviceLayer

open DeviceLayer.Action

/-! ## Good requests -/

namespace Contents

/-- Whole groups of bytes that lie in a buffer. -/
structure Spans (c : Contents) (b : Buffer) (offset size : Nat) : Prop where
  made : b.id < c.length
  begins : isAligned offset = true
  sized : isAligned size = true
  inside : offset + size ≤ (c.of b).size

/-- Buffers keep their sizes, and none of them goes. -/
structure Lasts (c c' : Contents) : Prop where
  grows : c.length ≤ c'.length
  sized : ∀ b : Buffer, b.id < c.length → (c'.of b).size = (c.of b).size

instance : Evolution Lasts where
  refl _ := ⟨Nat.le_refl _, fun _ _ => rfl⟩
  trans first second := by
    refine ⟨Nat.le_trans first.grows second.grows, fun b made => ?_⟩
    rw [second.sized b (Nat.lt_of_lt_of_le made first.grows), first.sized b made]

variable {c c' : Contents} {b : Buffer} {offset size : Nat}

theorem Spans.lasts (h : c.Spans b offset size) (lasts : c.Lasts c') : c'.Spans b offset size where
  made := Nat.lt_of_lt_of_le h.made lasts.grows
  begins := h.begins
  sized := h.sized
  inside := by
    rw [lasts.sized b h.made]
    exact h.inside

theorem lasts_prefix (h : c <+: c') : c.Lasts c' := by
  obtain ⟨more, rfl⟩ := h
  refine ⟨by simp, fun b made => ?_⟩
  rw [of_append made]

theorem lasts_write {data : Storage} (inside : offset + data.size ≤ (c.of b).size) :
    c.Lasts (c.write b offset data) := by
  refine ⟨by simp [write], fun other made => ?_⟩
  by_cases same : other.id = b.id
  · rw [of_congr same, of_write_self (same ▸ made), Storage.size_splice inside, of_congr same]
  · rw [of_write_of_ne same]

end Contents

/-- What is moved lies in the buffers that the command names, in whole groups of bytes. -/
def Command.Fits (c : Contents) : Command → Prop
  | .copy src srcOffset dst dstOffset size =>
    c.Spans src srcOffset size ∧ c.Spans dst dstOffset size
  | .clear buffer offset size => c.Spans buffer offset size
  | _ => True

/-- All that the queue is asked to move fits. -/
def Event.Fits (c : Contents) : Event → Prop
  | .writeBuffer buffer offset data => c.Spans buffer offset data.size
  | .submit _ commands => ∀ command ∈ commands, command.Fits c
  | _ => True

section

variable {c c' : Contents} {command : Command} {e : Event}

theorem Command.Fits.lasts (h : command.Fits c) (lasts : c.Lasts c') : command.Fits c' := by
  cases command with
  | copy => exact ⟨h.1.lasts lasts, h.2.lasts lasts⟩
  | clear => exact Contents.Spans.lasts h lasts
  | _ => trivial

theorem Command.fits_of_not_moves (still : command.moves = false) : command.Fits c := by
  cases command with
  | copy | clear => cases still
  | _ => trivial

/-- Only the commands that move bytes have to be looked at. -/
theorem Command.fits_of_moves {commands : List Command}
    (fits : ∀ command ∈ commands.filter Command.moves, command.Fits c) :
    ∀ command ∈ commands, command.Fits c := by
  intro command member
  cases moves : command.moves with
  | true => exact fits command (List.mem_filter.2 ⟨member, moves⟩)
  | false => exact fits_of_not_moves moves

theorem Event.Fits.lasts (h : e.Fits c) (lasts : c.Lasts c') : e.Fits c' := by
  cases e with
  | writeBuffer => exact Contents.Spans.lasts h lasts
  | submit => exact fun command member => (h command member).lasts lasts
  | _ => trivial

theorem Event.fits_of_not_queues (other : e.queues = false) : e.Fits c := by
  cases e with
  | writeBuffer | submit => cases other
  | _ => trivial

theorem Command.Fits.lasts_run (h : command.Fits c) : c.Lasts (command.run c) := by
  cases command with
  | copy src srcOffset dst dstOffset size =>
    obtain ⟨source, target⟩ := h
    apply Contents.lasts_write
    rw [Storage.size_slice source.inside]
    exact target.inside
  | clear buffer offset size =>
    apply Contents.lasts_write
    rw [Storage.size_zeros]
    exact Contents.Spans.inside h
  | _ => exact Evolution.refl c

theorem lasts_runCommands {commands : List Command} (fits : ∀ command ∈ commands, command.Fits c) :
    c.Lasts (runCommands c commands) := by
  induction commands generalizing c with
  | nil => exact Evolution.refl c
  | cons command rest ih =>
    have step := (fits command List.mem_cons_self).lasts_run
    -- What comes after was good before the first command ran, and no buffer has lost a byte since.
    refine Evolution.trans step (ih fun later member => ?_)
    exact (fits later (List.mem_cons_of_mem _ member)).lasts step

end

/-! ## Asking for them -/

namespace Platform

/-- Buffers keep their sizes, and what the queue was asked for in between fits them. -/
structure Asks (p q : Platform) : Prop where
  lasts : p.contents.Lasts q.contents
  asked : ∃ more, q.asked = p.asked ++ more ∧ ∀ e ∈ more, e.Fits q.contents

instance : Evolution Asks where
  refl p := ⟨Evolution.refl p.contents, [], by simp, by simp⟩
  trans first second := by
    obtain ⟨sooner, asked, fits⟩ := first.asked
    obtain ⟨later, asked', fits'⟩ := second.asked
    refine ⟨Evolution.trans first.lasts second.lasts, sooner ++ later, ?_, fun e member => ?_⟩
    · rw [asked', asked, List.append_assoc]
    · rcases List.mem_append.1 member with early | late
      · exact (fits e early).lasts second.lasts
      · exact fits' e late

variable {p q r : Platform} {b : Buffer}

/-- Two steps that each keep something, and ask for good requests only, are one such step. -/
theorem Asks.carry {I J K : Prop} (first : I → J ∧ p.Asks q) (second : J → K ∧ q.Asks r) :
    I → K ∧ p.Asks r := by
  intro holds
  obtain ⟨holds, sooner⟩ := first holds
  obtain ⟨holds, later⟩ := second holds
  exact ⟨holds, Evolution.trans sooner later⟩

theorem Asks.of_lasts (lasts : p.contents.Lasts q.contents) (asked : q.asked = p.asked) :
    p.Asks q := ⟨lasts, [], by simp [asked], by simp⟩

theorem Grows.asks (h : p.Grows q) : p.Asks q :=
  .of_lasts (Contents.lasts_prefix h.contents) h.asked

theorem Asks.one {e : Event} (lasts : p.contents.Lasts q.contents) (log : q.log = p.log ++ [e])
    (queues : e.queues = true) (fits : e.Fits p.contents) : p.Asks q := by
  refine ⟨lasts, [e], ?_, fun e' member => ?_⟩
  · simp [Platform.asked, log, queues]
  · obtain rfl := List.mem_singleton.1 member
    exact fits.lasts lasts

theorem asks_queueWrite {offset : Nat} {data : Storage}
    (spans : p.contents.Spans b offset data.size) : p.Asks (p.queueWrite b offset data) :=
  .one (Contents.lasts_write spans.inside) rfl rfl spans

theorem asks_submit (label : EncoderLabel) {commands : List Command}
    (fits : ∀ command ∈ commands, command.Fits p.contents) :
    p.Asks (p.submit label commands).2 :=
  .one (lasts_runCommands fits) rfl rfl fits

theorem asks_polled (p : Platform) (c : Connection) (fence : Option Fence) :
    p.Asks (p.polled c fence) := by
  refine .of_lasts (Evolution.refl p.contents) ?_
  simp [asked, polled, record, Event.queues]

theorem asks_makeBuffer (p : Platform) (c : Connection) (purpose : BufferPurpose) (size : Nat) :
    p.Asks (p.makeBuffer c purpose size).2 :=
  (makes_makeBuffer c purpose size p).asks

/-! ## Windows -/

theorem isAligned_sub {m n : Nat} (hm : isAligned m = true) (hn : isAligned n = true) :
    isAligned (m - n) = true := by
  have hm : m % 4 = 0 := of_decide_eq_true hm
  have hn : n % 4 = 0 := of_decide_eq_true hn
  have aligned : (m - n) % 4 = 0 := by omega
  exact decide_eq_true aligned

theorem isAligned_window {offset len past : Nat}
    (window : (addWords offset len >>= alignUp) = .ok past) : isAligned past = true := by
  unfold addWords at window
  split at window
  · exact (alignUp_eq_ok window).2.2.1
  · cases window

/-- The window around some bytes, if it ends in the buffer. -/
theorem spans_window (known : b.id < p.contents.length) {offset len past : Nat}
    (window : (addWords offset len >>= alignUp) = .ok past) (fits : past ≤ p.bufferSize b) :
    p.contents.Spans b (alignDown offset) (past - alignDown offset) where
  made := known
  begins := isAligned_alignDown offset
  sized := isAligned_sub (isAligned_window window) (isAligned_alignDown offset)
  inside := by
    have before := alignDown_le offset
    have after := window_eq_ok window
    have fits : past ≤ (p.contents.of b).size := fits
    omega

theorem asks_readBack {first len : Nat} (spans : p.contents.Spans b first len) :
    p.Asks (p.readBack b first len) := by
  have made := p.asks_makeBuffer b.connection .staging len
  have staged : Contents.Spans (p.makeBuffer b.connection .staging len).2.contents
      (p.staging b len) 0 len := by
    refine ⟨?_, rfl, spans.sized, ?_⟩
    · simp [staging]
    · rw [contents_makeBuffer, Contents.of_append_new rfl, Storage.size_zeros]
      omega
  refine Evolution.trans made (Evolution.trans (asks_submit .readback ?_) (asks_polled _ _ _))
  intro command member
  obtain rfl := List.mem_singleton.1 member
  exact ⟨spans.lasts made.lasts, staged⟩

theorem asks_readBuffer (known : b.id < p.contents.length) (offset size : Nat) :
    (readBuffer b offset size).wp (fun _ q => p.Asks q) (fun _ q => p.Asks q) p := by
  have same : p.Asks p := Evolution.refl p
  unfold readBuffer
  split
  · exact same
  · simp only [checkBounds, wp_bind, wp_check, wp_get, wp_require, wp_createBuffer, wp_modifyGet,
      wp_poll, wp_pure, Bool.and_eq_true, decide_eq_true_eq]
    refine ⟨fun past window => ⟨?_, fun _ => same⟩, fun _ _ => same⟩
    rintro ⟨fits, _⟩
    have asks := asks_readBack (spans_window known window fits)
    exact ⟨fun _ => ⟨fun _ => asks, fun _ => asks⟩, fun _ => same⟩

theorem asks_writeBuffer (known : b.id < p.contents.length) (offset : Nat) (data : Storage) :
    (writeBuffer b offset data).wp (fun _ q => p.Asks q) (fun _ q => p.Asks q) p := by
  have same : p.Asks p := Evolution.refl p
  unfold writeBuffer
  split
  · exact same
  · simp only [checkBounds, wp_bind, wp_check, wp_get, wp_require, Bool.and_eq_true,
      decide_eq_true_eq]
    refine ⟨fun past window => ⟨?_, fun _ => same⟩, fun _ _ => same⟩
    rintro ⟨fits, _⟩
    have spans := spans_window known window fits
    have before := alignDown_le offset
    have after := window_eq_ok window
    split
    · -- The bytes are the window.
      rename_i whole
      obtain ⟨first, last⟩ := whole
      rw [first, last, Nat.add_sub_cancel_left] at spans
      exact asks_queueWrite spans
    · -- The window that was read is as long as before when it is patched.
      rw [wp_bind]
      refine ((asks_readBuffer known _ _).and (wp_readBuffer known _ _)).mono ?_ fun _ _ => And.left
      rintro window q ⟨read, _, size⟩
      have patched : (window.splice (offset - alignDown offset) data).size =
          past - alignDown offset := by
        rw [Storage.size_splice (by omega), size]
      rw [wp_modify]
      refine Evolution.trans read (asks_queueWrite ?_)
      rw [patched]
      exact spans.lasts read.lasts

end Platform

/-! ## Faults of windows -/

/-- A window ends outside its buffer, or outside the word. -/
def Fault.ofWindow : Fault → Bool
  | .device (.precondition (.nativeBounds ..)) | .assertion (.overflow _) => true
  | _ => false

theorem Fault.elim_ofWindow {e : Fault} {P : Prop} (other : e.ofWindow = false)
    (window : e.ofWindow = true) : P := by
  rw [other] at window
  cases window

/-- If the action fails, then not for a window. -/
def Action.Clear {σ α : Type} (a : Action σ α) (s : σ) : Prop :=
  a.wp (fun _ _ => True) (fun e _ => e.ofWindow = false) s

namespace Platform

variable {p : Platform} {b : Buffer}

theorem clear_readBuffer (roomy : p.Roomy b) {offset size : Nat}
    (inside : offset + size ≤ p.bufferSize b) : (readBuffer b offset size).Clear p := by
  obtain ⟨past, window, after, fits⟩ := alignUp_window inside roomy.aligned roomy.small
  have before := alignDown_le offset
  unfold readBuffer
  split
  · trivial
  · simp only [Clear, window, checkBounds, wp_bind, wp_check_ok, wp_get, wp_require,
      wp_createBuffer, wp_modifyGet, wp_poll, wp_pure, implies_true, true_and,
      Bool.and_eq_false_iff, decide_eq_false_iff_not]
    refine ⟨fun _ => ⟨fun _ _ => rfl, fun _ => rfl⟩, fun outside => ?_⟩
    omega

theorem clear_writeBuffer (roomy : p.Roomy b) {offset : Nat} {data : Storage}
    (inside : offset + data.size ≤ p.bufferSize b) : (writeBuffer b offset data).Clear p := by
  obtain ⟨past, window, after, fits⟩ := alignUp_window inside roomy.aligned roomy.small
  have before := alignDown_le offset
  unfold writeBuffer
  split
  · trivial
  · simp only [Clear, window, checkBounds, wp_bind, wp_check_ok, wp_get, wp_require,
      Bool.and_eq_true, decide_eq_true_eq, Bool.and_eq_false_iff, decide_eq_false_iff_not]
    refine ⟨fun _ => ?_, fun outside => by omega⟩
    split
    · trivial
    · rw [wp_bind]
      exact (clear_readBuffer roomy (by omega)).mono (fun _ _ _ => trivial) fun _ _ clear => clear

end Platform

end DeviceLayer
