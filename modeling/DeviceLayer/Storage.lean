import DeviceLayer.Storage.Segment

/-!
# Stored bytes

What a buffer or a block of host memory holds, and what is moved between them: segments, one after
the other. Fresh memory and a cut out of other memory take no room, so that large blocks are cheap.
`toBytes` shows the bytes; the same bytes may lie in different segments.

* `Storage.zeros`, `ofBytes`, `ofWords` — new storage.
* `Storage.take`, `drop`, `slice`, `splice`, `map` — what operations make of it.
* `toBytes_zeros`, …, `toBytes_map` — each is the operation of the same name on byte strings.
-/

namespace DeviceLayer

/-- Bytes in segments. -/
structure Storage where
  segments : List Segment

namespace Storage

/-- The bytes held, in order. -/
def toBytes (s : Storage) : Bytes := s.segments.flatMap Segment.toBytes

/-- The number of bytes held. -/
def size (s : Storage) : Nat := s.segments.foldr (fun segment n => segment.size + n) 0

instance : Append Storage := ⟨fun s t => ⟨s.segments ++ t.segments⟩⟩

/-! ## New storage -/

/-- One segment; nothing when it is empty. -/
def ofSegment (s : Segment) : Storage := ⟨if s.size = 0 then [] else [s]⟩

/-- `n` zero bytes. -/
def zeros (n : Nat) : Storage := ofSegment (.copies n 0)

/-- The bytes of an array. -/
def ofByteArray (cells : ByteArray) : Storage := ofSegment (.window cells 0 cells.size)

def ofBytes (b : Bytes) : Storage := ofByteArray ⟨b.toArray⟩

/-- An array of bytes with the four bytes of a word after its own. -/
def pushWord (cells : ByteArray) (w : UInt32) : ByteArray :=
  (((cells.push w.toUInt8).push (w >>> 8).toUInt8).push (w >>> 16).toUInt8).push (w >>> 24).toUInt8

/-- The bytes of `n` words, which are given by their position. -/
def ofWords (n : Nat) (word : Nat → UInt32) : Storage :=
  ofByteArray (n.fold (fun i _ cells => pushWord cells (word i)) .empty)

/-! ## Operations -/

/-- The segments that hold the first `n` bytes. -/
def takeSegments : (n : Nat) → List Segment → List Segment
  | _, [] => []
  | n, s :: rest =>
    if n = 0 then []
    else if s.size ≤ n then s :: takeSegments (n - s.size) rest
    else [s.take n]

/-- The segments that hold all but the first `n` bytes. -/
def dropSegments : (n : Nat) → List Segment → List Segment
  | _, [] => []
  | n, s :: rest =>
    if n = 0 then s :: rest
    else if s.size ≤ n then dropSegments (n - s.size) rest
    else s.drop n :: rest

/-- The first `n` bytes. -/
def take (s : Storage) (n : Nat) : Storage := ⟨takeSegments n s.segments⟩

/-- All but the first `n` bytes. -/
def drop (s : Storage) (n : Nat) : Storage := ⟨dropSegments n s.segments⟩

/-- The `len` bytes at `offset` (fewer when the storage ends before). -/
def slice (s : Storage) (offset len : Nat) : Storage := (s.drop offset).take len

/-- `s` with `data` written over the bytes from `offset` on. -/
def splice (s : Storage) (offset : Nat) (data : Storage) : Storage :=
  s.take offset ++ data ++ s.drop (offset + data.size)

/-- Every byte changed by `f`. -/
def map (f : UInt8 → UInt8) (s : Storage) : Storage := ⟨s.segments.map (Segment.map f)⟩

/-- The bytes in one array. -/
def toByteArray (s : Storage) : ByteArray := s.segments.foldl Segment.appendTo .empty

/-! ## The bytes held -/

@[simp] theorem length_toBytes (s : Storage) : s.toBytes.length = s.size := by
  simp [toBytes, size, List.length_flatMap, List.sum_eq_foldr, List.foldr_map]

@[simp] theorem toBytes_append (s t : Storage) : (s ++ t).toBytes = s.toBytes ++ t.toBytes :=
  List.flatMap_append

@[simp] theorem toBytes_ofSegment (s : Segment) : (ofSegment s).toBytes = s.toBytes := by
  unfold ofSegment
  split
  · rename_i empty
    exact (List.eq_nil_of_length_eq_zero ((Segment.length_toBytes s).trans empty)).symm
  · exact List.append_nil _

@[simp] theorem toBytes_zeros (n : Nat) : (zeros n).toBytes = Bytes.zeros n :=
  toBytes_ofSegment _

@[simp] theorem toBytes_ofByteArray (cells : ByteArray) :
    (ofByteArray cells).toBytes = cells.data.toList := by
  rw [ofByteArray, toBytes_ofSegment, Segment.toBytes_window, Bytes.slice, List.drop_zero]
  exact List.take_of_length_le (Nat.le_refl _)

@[simp] theorem toBytes_ofBytes (b : Bytes) : (ofBytes b).toBytes = b := toBytes_ofByteArray _

theorem toList_pushWord (cells : ByteArray) (w : UInt32) :
    (pushWord cells w).data.toList = cells.data.toList ++ Bytes.ofWord w := by
  simp [pushWord, Bytes.ofWord, ByteArray.data_push]

@[simp] theorem toBytes_ofWords (n : Nat) (word : Nat → UInt32) :
    (ofWords n word).toBytes = (List.range n).flatMap fun i => Bytes.ofWord (word i) := by
  rw [ofWords, toBytes_ofByteArray]
  induction n with
  | zero => rfl
  | succ n ih =>
    rw [Nat.fold_succ, toList_pushWord, ih, List.range_succ, List.flatMap_append,
      List.flatMap_singleton]

theorem flatMap_takeSegments (n : Nat) (ss : List Segment) :
    (takeSegments n ss).flatMap Segment.toBytes = (ss.flatMap Segment.toBytes).take n := by
  fun_induction takeSegments n ss with
  | case1 => simp
  | case2 s rest => simp
  | case3 n s rest _ fits ih =>
    have whole : s.toBytes.length ≤ n := by rwa [Segment.length_toBytes]
    rw [List.flatMap_cons, List.flatMap_cons, ih, List.take_append, Segment.length_toBytes,
      List.take_of_length_le whole]
  | case4 n s rest _ cut =>
    rw [List.flatMap_cons, List.flatMap_cons, List.flatMap_nil, List.append_nil,
      Segment.toBytes_take, List.take_append_of_le_length (by rw [Segment.length_toBytes]; omega)]

theorem flatMap_dropSegments (n : Nat) (ss : List Segment) :
    (dropSegments n ss).flatMap Segment.toBytes = (ss.flatMap Segment.toBytes).drop n := by
  fun_induction dropSegments n ss with
  | case1 => simp
  | case2 s rest => simp
  | case3 n s rest _ fits ih =>
    have whole : s.toBytes.length ≤ n := by rwa [Segment.length_toBytes]
    rw [ih, List.flatMap_cons, List.drop_append, Segment.length_toBytes,
      List.drop_of_length_le whole, List.nil_append]
  | case4 n s rest _ cut =>
    rw [List.flatMap_cons, List.flatMap_cons, Segment.toBytes_drop,
      List.drop_append_of_le_length (by rw [Segment.length_toBytes]; omega)]

@[simp] theorem toBytes_take (s : Storage) (n : Nat) : (s.take n).toBytes = s.toBytes.take n :=
  flatMap_takeSegments n s.segments

@[simp] theorem toBytes_drop (s : Storage) (n : Nat) : (s.drop n).toBytes = s.toBytes.drop n :=
  flatMap_dropSegments n s.segments

@[simp] theorem toBytes_slice (s : Storage) (offset len : Nat) :
    (s.slice offset len).toBytes = s.toBytes.slice offset len := by
  rw [slice, toBytes_take, toBytes_drop, Bytes.slice]

@[simp] theorem toBytes_splice (s : Storage) (offset : Nat) (data : Storage) :
    (s.splice offset data).toBytes = s.toBytes.splice offset data.toBytes := by
  rw [splice, toBytes_append, toBytes_append, toBytes_take, toBytes_drop, Bytes.splice,
    length_toBytes]

@[simp] theorem toBytes_map (f : UInt8 → UInt8) (s : Storage) :
    (s.map f).toBytes = s.toBytes.map f := by
  simp [toBytes, map, List.flatMap_map, List.map_flatMap]

theorem toList_toByteArray (s : Storage) : s.toByteArray.data.toList = s.toBytes := by
  have grown (ss : List Segment) (cells : ByteArray) :
      (ss.foldl Segment.appendTo cells).data.toList =
        cells.data.toList ++ ss.flatMap Segment.toBytes := by
    induction ss generalizing cells with
    | nil => exact (List.append_nil _).symm
    | cons s rest ih =>
      rw [List.foldl_cons, ih, Segment.toList_appendTo, List.flatMap_cons, List.append_assoc]
  exact grown s.segments .empty

@[simp] theorem size_zeros (n : Nat) : (zeros n).size = n := by
  rw [← length_toBytes, toBytes_zeros, Bytes.length_zeros]

@[simp] theorem size_ofBytes (b : Bytes) : (ofBytes b).size = b.length := by
  rw [← length_toBytes, toBytes_ofBytes]

@[simp] theorem size_map (f : UInt8 → UInt8) (s : Storage) : (s.map f).size = s.size := by
  rw [← length_toBytes, toBytes_map, List.length_map, length_toBytes]

theorem size_slice {s : Storage} {offset len : Nat} (h : offset + len ≤ s.size) :
    (s.slice offset len).size = len := by
  rw [← length_toBytes, toBytes_slice, Bytes.length_slice_of_le (by rwa [length_toBytes])]

theorem size_splice {s data : Storage} {offset : Nat} (h : offset + data.size ≤ s.size) :
    (s.splice offset data).size = s.size := by
  rw [← length_toBytes, toBytes_splice, Bytes.length_splice (by simpa using h), length_toBytes]

end Storage

end DeviceLayer
