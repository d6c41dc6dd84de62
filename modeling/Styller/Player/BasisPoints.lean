import Mathlib.Data.Int.Log
import Mathlib.Data.Rat.Floor

/-! `Player::getBasisPointLevel`: a quotient of doubles in ten thousandths. -/

namespace Styller.BasisPoints

/-- The nearest integer, of two that are as near the even one. -/
def roundHalfEven (x : ℚ) : ℤ :=
  let below := ⌊x⌋
  if x - below < 1 / 2 then below
  else if 1 / 2 < x - below then below + 1
  else if below % 2 = 0 then below
  else below + 1

/-- The nearest double of a number that is not negative and far from the ends of the range. -/
def toDouble (x : ℚ) : ℚ :=
  if x = 0 then 0
  else
    let unit := (2 : ℚ) ^ (Int.log 2 x - 52)
    roundHalfEven (x / unit) * unit

/-- `Player::getBasisPointLevel`; a quotient that fits in no word is not defined, here it wraps. -/
def getBasisPointLevel (count nextLevelCount : UInt64) : UInt16 :=
  if nextLevelCount = 0 then 0
  else
    let quotient := toDouble (toDouble (toDouble count.toNat * 10000) / toDouble nextLevelCount.toNat)
    let result := UInt16.ofNat ⌊quotient⌋.toNat
    if result > 10000 then 0 else result

theorem toDouble_zero : toDouble 0 = 0 := if_pos rfl

/-- Nothing of a level is nothing. -/
theorem getBasisPointLevel_zero (nextLevelCount : UInt64) : getBasisPointLevel 0 nextLevelCount = 0 := by
  unfold getBasisPointLevel
  split
  · rfl
  · have none : toDouble (toDouble (toDouble ((0 : UInt64).toNat : ℚ) * 10000) / toDouble nextLevelCount.toNat) = 0 := by
      rw [UInt64.toNat_zero, Nat.cast_zero, toDouble_zero, zero_mul, toDouble_zero, zero_div, toDouble_zero]
    rw [none]
    rfl

end Styller.BasisPoints
