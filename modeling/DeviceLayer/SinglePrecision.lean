/-!
# Whole numbers in single precision

A single-precision number has 24 binary digits. It holds every whole number up to `2 ^ 24`, and of
the larger ones those that are a multiple of the unit at their size. Any other goes to the nearest
that is held, and one that lies halfway to the even multiple.

* `roundToEven` — the multiple of a unit that is nearest to a number, with its laws: it is a
  multiple, and at most half a unit away.
* `nearestSingle` — the whole single-precision number nearest to a number.
-/

namespace DeviceLayer

/-- The multiple of `unit` nearest to `n`; a number halfway between two goes to the even one. -/
def roundToEven (unit n : Nat) : Nat :=
  let below := n / unit
  let rest := n % unit
  if 2 * rest < unit ∨ (2 * rest = unit ∧ below % 2 = 0) then below * unit else (below + 1) * unit

theorem dvd_roundToEven (unit n : Nat) : unit ∣ roundToEven unit n := by
  simp only [roundToEven]
  split <;> exact Nat.dvd_mul_left _ _

/-- Rounding up goes by at most half a unit. -/
theorem roundToEven_le (unit n : Nat) : 2 * roundToEven unit n ≤ 2 * n + unit := by
  have hn := Nat.div_add_mod n unit
  rw [Nat.mul_comm] at hn
  simp only [roundToEven]
  split
  · omega
  · rw [Nat.add_mul]
    omega

/-- Rounding down goes by at most half a unit. -/
theorem le_roundToEven {unit : Nat} (h : 0 < unit) (n : Nat) :
    2 * n ≤ 2 * roundToEven unit n + unit := by
  have hn := Nat.div_add_mod n unit
  have hm := Nat.mod_lt n h
  rw [Nat.mul_comm] at hn
  simp only [roundToEven]
  split
  · omega
  · rw [Nat.add_mul]
    omega

theorem roundToEven_one (n : Nat) : roundToEven 1 n = n := by
  simp [roundToEven, Nat.mod_one]

/-- Binary digits of a single-precision number. -/
def singleDigits : Nat := 24

/-- The distance of the single-precision numbers that have as many binary digits as `n`. -/
def singleUnit (n : Nat) : Nat := 1 <<< (n.log2 + 1 - singleDigits)

/-- The whole single-precision number nearest to `n`. -/
def nearestSingle (n : Nat) : Nat := roundToEven (singleUnit n) n

/-- A number with few enough digits is held as it is. -/
theorem nearestSingle_of_lt {n : Nat} (h : n < 1 <<< singleDigits) : nearestSingle n = n := by
  have hu : singleUnit n = 1 := by
    unfold singleUnit
    rcases Nat.eq_zero_or_pos n with rfl | hn
    · rfl
    · rw [Nat.one_shiftLeft] at h
      have hlog := (Nat.log2_lt (Nat.ne_of_gt hn)).2 h
      rw [show n.log2 + 1 - singleDigits = 0 by omega, Nat.shiftLeft_zero]
  rw [nearestSingle, hu, roundToEven_one]

end DeviceLayer
