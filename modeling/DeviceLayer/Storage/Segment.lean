import DeviceLayer.Bytes

/-!
# Segments

A segment is a stretch of bytes in one piece: copies of one byte, which take no room, or a window of
an array of bytes. Cutting a segment narrows it and moves no byte.

* `Segment.take`, `drop` — a segment narrowed from either end.
* `Segment.map` — a segment changed byte by byte.
* `toBytes_take`, `toBytes_drop`, `toBytes_map` — the bytes that are left.
-/

namespace DeviceLayer

/-- A stretch of bytes in one piece. -/
inductive Segment where
  /-- So many copies of a byte. -/
  | copies (n : Nat) (byte : UInt8)
  /-- The `len` bytes of an array at `offset` (fewer when the array ends before). -/
  | window (cells : ByteArray) (offset len : Nat)

namespace Segment

/-- The bytes of a segment, in order. -/
def toBytes : Segment → Bytes
  | copies n byte => List.replicate n byte
  | window cells offset len => (cells.extract offset (offset + len)).data.toList

/-- The number of bytes. -/
def size : Segment → Nat
  | copies n _ => n
  | window cells offset len => min len (cells.size - offset)

/-- The first `n` bytes. -/
def take (n : Nat) : Segment → Segment
  | copies m byte => copies (min n m) byte
  | window cells offset len => window cells offset (min n len)

/-- All but the first `n` bytes. -/
def drop (n : Nat) : Segment → Segment
  | copies m byte => copies (m - n) byte
  | window cells offset len => window cells (offset + n) (len - n)

/-- Every byte changed by `f`. -/
def map (f : UInt8 → UInt8) : Segment → Segment
  | copies n byte => copies n (f byte)
  | window cells offset len => window ⟨(cells.extract offset (offset + len)).data.map f⟩ 0 len

/-- An array of bytes with the bytes of a segment after its own. -/
def appendTo (cells : ByteArray) : Segment → ByteArray
  | copies n byte => n.fold (fun _ _ grown => grown.push byte) cells
  | window more offset len => cells ++ more.extract offset (offset + len)

/-! ## The bytes of a segment -/

theorem toBytes_window (cells : ByteArray) (offset len : Nat) :
    (window cells offset len).toBytes = Bytes.slice cells.data.toList offset len := by
  simp [toBytes, Bytes.slice, ByteArray.data_extract]

@[simp] theorem length_toBytes (s : Segment) : s.toBytes.length = s.size := by
  cases s with
  | copies n byte => exact List.length_replicate
  | window cells offset len =>
    rw [toBytes_window, Bytes.length_slice]
    rfl

@[simp] theorem toBytes_take (n : Nat) (s : Segment) : (s.take n).toBytes = s.toBytes.take n := by
  cases s with
  | copies m byte => exact List.take_replicate.symm
  | window cells offset len =>
    rw [take, toBytes_window, toBytes_window, Bytes.slice, Bytes.slice, List.take_take]

@[simp] theorem toBytes_drop (n : Nat) (s : Segment) : (s.drop n).toBytes = s.toBytes.drop n := by
  cases s with
  | copies m byte => exact List.drop_replicate.symm
  | window cells offset len =>
    rw [drop, toBytes_window, toBytes_window, Bytes.slice, Bytes.slice, List.drop_take,
      List.drop_drop]

@[simp] theorem toBytes_map (f : UInt8 → UInt8) (s : Segment) :
    (s.map f).toBytes = s.toBytes.map f := by
  cases s with
  | copies n byte => exact List.map_replicate.symm
  | window cells offset len =>
    rw [map, toBytes_window, toBytes_window, Bytes.slice, List.drop_zero, Array.toList_map,
      List.take_of_length_le]
    · rw [← toBytes_window]
      rfl
    · rw [List.length_map]
      exact Nat.le_trans (Nat.le_of_eq (length_toBytes (window cells offset len)))
        (Nat.min_le_left _ _)

theorem toList_appendTo (cells : ByteArray) (s : Segment) :
    (s.appendTo cells).data.toList = cells.data.toList ++ s.toBytes := by
  cases s with
  | copies n byte =>
    induction n with
    | zero => exact (List.append_nil _).symm
    | succ n ih =>
      simp only [appendTo, toBytes, Nat.fold_succ, ByteArray.data_push, Array.toList_push] at ih ⊢
      rw [ih, List.append_assoc, List.replicate_succ']
  | window more offset len => rw [appendTo, ByteArray.toList_data_append, toBytes]

end Segment

end DeviceLayer
