/-!
# Byte strings

What is read, written and stored is a list of bytes, addressed by offset and length.

* `Bytes.slice` — the bytes of a window.
* `Bytes.splice` — the same bytes with a window replaced.
* `length_splice`, `slice_splice_self`, `getElem?_splice` — a replaced window holds the new
  bytes and nothing else moves.
* `Bytes.ofWord`, `Bytes.word` — 32-bit words, least significant byte first.
-/

namespace DeviceLayer

abbrev Bytes := List UInt8

namespace Bytes

/-- `n` zero bytes. -/
def zeros (n : Nat) : Bytes := List.replicate n 0

/-- The `len` bytes at `offset` (fewer when the string ends before). -/
def slice (b : Bytes) (offset len : Nat) : Bytes := (b.drop offset).take len

/-- `b` with `data` written over the bytes from `offset` on. -/
def splice (b : Bytes) (offset : Nat) (data : Bytes) : Bytes :=
  b.take offset ++ data ++ b.drop (offset + data.length)

/-- The four bytes of a word, least significant first. -/
def ofWord (w : UInt32) : Bytes :=
  [w.toUInt8, (w >>> 8).toUInt8, (w >>> 16).toUInt8, (w >>> 24).toUInt8]

/-- The word spelled by four bytes, least significant first. -/
def word (b₀ b₁ b₂ b₃ : UInt8) : UInt32 :=
  b₀.toUInt32 ||| (b₁.toUInt32 <<< 8) ||| (b₂.toUInt32 <<< 16) ||| (b₃.toUInt32 <<< 24)

/-- The whole words of a byte string, a trailing part of a word left out. -/
def words : Bytes → List UInt32
  | b₀ :: b₁ :: b₂ :: b₃ :: rest => word b₀ b₁ b₂ b₃ :: words rest
  | _ => []

@[simp] theorem length_zeros (n : Nat) : (zeros n).length = n := List.length_replicate

@[simp] theorem length_slice (b : Bytes) (offset len : Nat) :
    (b.slice offset len).length = min len (b.length - offset) := by
  simp [slice]

theorem length_slice_of_le {b : Bytes} {offset len : Nat} (h : offset + len ≤ b.length) :
    (b.slice offset len).length = len := by
  rw [length_slice]; omega

theorem length_splice {b data : Bytes} {offset : Nat} (h : offset + data.length ≤ b.length) :
    (b.splice offset data).length = b.length := by
  simp [splice]; omega

/-- What was written is what the window then holds. -/
theorem slice_splice_self {b data : Bytes} {offset : Nat} (h : offset + data.length ≤ b.length) :
    (b.splice offset data).slice offset data.length = data := by
  have ht : (b.take offset).length = offset := by simp; omega
  rw [slice, splice, List.append_assoc, List.drop_append_of_le_length (by omega),
    List.drop_eq_nil_of_le (by omega), List.nil_append, List.take_left]

theorem getElem?_splice {b data : Bytes} {offset : Nat} (h : offset + data.length ≤ b.length)
    (i : Nat) : (b.splice offset data)[i]? =
      if offset ≤ i ∧ i < offset + data.length then data[i - offset]? else b[i]? := by
  have ht : (b.take offset).length = offset := by simp; omega
  unfold splice
  by_cases h1 : i < offset
  · rw [if_neg (by omega), List.append_assoc, List.getElem?_append_left (by omega),
      List.getElem?_take_of_lt h1]
  · by_cases h2 : i < offset + data.length
    · rw [if_pos ⟨by omega, h2⟩, List.append_assoc, List.getElem?_append_right (by omega), ht,
        List.getElem?_append_left (by omega)]
    · rw [if_neg (by omega), List.append_assoc, List.getElem?_append_right (by omega), ht,
        List.getElem?_append_right (by omega), List.getElem?_drop]
      congr 1
      omega

theorem getElem?_slice {b : Bytes} {offset len i : Nat} (h : i < len) :
    (b.slice offset len)[i]? = b[offset + i]? := by
  rw [slice, List.getElem?_take_of_lt h, List.getElem?_drop]

@[simp] theorem splice_nil (b : Bytes) (offset : Nat) : b.splice offset [] = b := by
  simp [splice]

/-- Bytes written elsewhere leave a window as it was. -/
theorem slice_splice_of_apart {b data : Bytes} {first len offset : Nat}
    (full : (b.slice first len).length = len)
    (apart : first + len ≤ offset ∨ offset + data.length ≤ first) :
    (b.splice offset data).slice first len = b.slice first len := by
  cases len with
  | zero => simp [slice]
  | succ n =>
    have inside : first + (n + 1) ≤ b.length := by rw [length_slice] at full; omega
    rw [slice, slice, splice]
    rcases apart with before | after
    · have fits : first + (n + 1) ≤ (b.take offset).length := by rw [List.length_take]; omega
      rw [List.append_assoc, List.drop_append_of_le_length (by omega),
        List.take_append_of_le_length (by rw [List.length_drop]; omega), List.drop_take,
        List.take_take, Nat.min_eq_left (by omega)]
    · have front : (b.take offset ++ data).length = offset + data.length := by
        rw [List.length_append, List.length_take]; omega
      rw [List.drop_append, List.drop_eq_nil_of_le (by omega), List.nil_append, front,
        List.drop_drop, Nat.add_sub_cancel' after]

/-- The middle of a window is what lies there in the whole. -/
theorem slice_slice {b : Bytes} {first past offset len : Nat} (h : offset + len ≤ past) :
    (b.slice first past).slice offset len = b.slice (first + offset) len := by
  rw [slice, slice, slice, List.drop_take, List.take_take, List.drop_drop,
    Nat.min_eq_left (by omega)]

theorem slice_take {b : Bytes} {n offset len : Nat} (h : offset + len ≤ n) :
    slice (b.take n) offset len = b.slice offset len := by
  rw [slice, slice, List.drop_take, List.take_take, Nat.min_eq_left (by omega)]

theorem take_splice {b data : Bytes} {n offset : Nat} (h : offset + data.length ≤ n) :
    (b.splice offset data).take n = splice (b.take n) offset data := by
  have before : offset ≤ n := by omega
  simp only [splice, List.append_assoc, List.take_take, List.drop_take, Nat.min_eq_left before]
  by_cases inside : offset ≤ b.length
  · have first : (b.take offset).length = offset := by rw [List.length_take]; omega
    have fits : (b.take offset).length ≤ n := by omega
    have room : data.length ≤ n - offset := by omega
    rw [List.take_append, List.take_append, List.take_of_length_le fits, first,
      List.take_of_length_le room, Nat.sub_sub]
  · have none : b.drop (offset + data.length) = [] := List.drop_eq_nil_of_le (by omega)
    rw [none, List.take_nil, List.append_nil, List.take_of_length_le]
    rw [List.length_append, List.length_take]
    omega

/-- Bytes written where they were read change nothing. -/
theorem splice_slice_self {b : Bytes} {offset len : Nat} (h : (b.slice offset len).length = len) :
    b.splice offset (b.slice offset len) = b := by
  simp only [splice, h]
  rw [slice, List.append_assoc, ← List.drop_drop, List.take_append_drop, List.take_append_drop]

/-- As many bytes as there are, written from the start on, replace everything. -/
theorem splice_zero {b data : Bytes} (h : data.length = b.length) : b.splice 0 data = data := by
  rw [splice, Nat.zero_add, h, List.drop_length, List.take_zero, List.nil_append, List.append_nil]

end Bytes

end DeviceLayer
