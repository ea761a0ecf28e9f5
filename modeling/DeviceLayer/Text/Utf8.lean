import DeviceLayer.Bytes

/-!
# Well-formed UTF-8

Shader text must be UTF-8. A refusal names the place of the first ill-formed sequence and how
many of its bytes begin a sequence that cannot be completed, or says that the text ends inside
one.

* `Utf8.check` — the first defect of a byte string, if any.
* `Utf8.Defect.text` — its wording.
-/

namespace DeviceLayer.Utf8

/-- Why a byte string is not UTF-8. -/
inductive Defect where
  /-- At `index`, the first `length` bytes begin no sequence. -/
  | invalid (length index : Nat)
  /-- The text ends inside the sequence that begins at `index`. -/
  | incomplete (index : Nat)
  deriving DecidableEq

def Defect.text : Defect → String
  | .invalid length index => s!"invalid utf-8 sequence of {length} bytes from index {index}"
  | .incomplete index => s!"incomplete utf-8 byte sequence from index {index}"

/-- A byte that continues a sequence. -/
def isTail (b : UInt8) : Bool := 0x80 ≤ b && b ≤ 0xBF

/-- How many bytes follow a lead byte, and the bounds of the first of them; `none` for a byte
that leads no sequence. The bounds leave out overlong forms, surrogates and values past the
last code point. -/
def lead? (b : UInt8) : Option (Nat × UInt8 × UInt8) :=
  if b ≤ 0x7F then some (0, 0x80, 0xBF)
  else if 0xC2 ≤ b ∧ b ≤ 0xDF then some (1, 0x80, 0xBF)
  else if b = 0xE0 then some (2, 0xA0, 0xBF)
  else if b = 0xED then some (2, 0x80, 0x9F)
  else if 0xE1 ≤ b ∧ b ≤ 0xEF then some (2, 0x80, 0xBF)
  else if b = 0xF0 then some (3, 0x90, 0xBF)
  else if 0xF1 ≤ b ∧ b ≤ 0xF3 then some (3, 0x80, 0xBF)
  else if b = 0xF4 then some (3, 0x80, 0x8F)
  else none

/-- How a run of continuation bytes turns out. -/
inductive Run where
  /-- All bytes are there. -/
  | complete
  /-- The text ends first. -/
  | short
  /-- After `good` continuation bytes comes something else. -/
  | broken (good : Nat)
  deriving DecidableEq

/-- Looks for `n` continuation bytes, `good` of the sequence's having been read. -/
def tails : Nat → Nat → Bytes → Run
  | 0, _, _ => .complete
  | _ + 1, _, [] => .short
  | n + 1, good, b :: rest => if isTail b then tails n (good + 1) rest else .broken good

/-- The bytes after a lead byte that wants `n` more, the first of them within bounds. -/
def follow (n : Nat) (lo hi : UInt8) : Bytes → Run
  | [] => if n = 0 then .complete else .short
  | b :: rest =>
    if n = 0 then .complete
    else if lo ≤ b && b ≤ hi then tails (n - 1) 1 rest
    else .broken 0

/-- The first defect of the text whose next byte has this index. -/
def checkFrom (index : Nat) (bytes : Bytes) : Option Defect :=
  match bytes with
  | [] => none
  | b :: rest =>
    match lead? b with
    | none => some (.invalid 1 index)
    | some (n, lo, hi) =>
      match follow n lo hi rest with
      | .complete => checkFrom (index + n + 1) (rest.drop n)
      | .short => some (.incomplete index)
      | .broken good => some (.invalid (good + 1) index)
  termination_by bytes.length
  decreasing_by
    simp only [List.length_drop, List.length_cons]
    omega

/-- The first defect of a byte string; none when it is UTF-8. -/
def check (bytes : Bytes) : Option Defect := checkFrom 0 bytes

end DeviceLayer.Utf8
