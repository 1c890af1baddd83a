import DeviceCatalog.Score
import Mathlib.Algebra.Group.Nat.Defs

/-!
# Scores of times

The bits of the double of a machine integer. Rounding to fifty-three bits keeps the order, so scores
are never in another order than the times that they were made from.
-/

namespace DeviceCatalog.Score

/-- The multiple of a unit that is nearest to a number, as a number of units; a half goes to the even
neighbour. -/
def nearestMultiple (unit number : Nat) : Nat :=
  if unit < 2 * (number % unit) ∨ (2 * (number % unit) = unit ∧ number / unit % 2 = 1) then
    number / unit + 1
  else number / unit

/-- The leading bits of a number that its double keeps, rounded. -/
def significand (number : Nat) : Nat :=
  if number.log2 ≤ 52 then number * 2 ^ (52 - number.log2)
  else nearestMultiple (2 ^ (number.log2 - 52)) number

variable {number : Nat}

theorem magnitudeOfNat_zero : magnitudeOfNat 0 = 0 := rfl

theorem magnitudeOfNat_eq (positive : number ≠ 0) :
    magnitudeOfNat number = (number.log2 + 1023) * 2 ^ 52 + (significand number - 2 ^ 52) := by
  simp only [magnitudeOfNat, if_neg positive, significand, nearestMultiple, Nat.shiftLeft_eq,
    Nat.one_mul]

theorem significand_of_small (small : number.log2 ≤ 52) :
    significand number = number * 2 ^ (52 - number.log2) := by
  rw [significand, if_pos small]

theorem significand_of_large (large : ¬ number.log2 ≤ 52) :
    significand number = nearestMultiple (2 ^ (number.log2 - 52)) number := by
  rw [significand, if_neg large]

theorem nearestMultiple_bounds (unit number : Nat) :
    number / unit ≤ nearestMultiple unit number ∧
      nearestMultiple unit number ≤ number / unit + 1 := by
  rw [nearestMultiple]
  split <;> omega

theorem nearestMultiple_mono {unit : Nat} {lesser greater : Nat} (le : lesser ≤ greater) :
    nearestMultiple unit lesser ≤ nearestMultiple unit greater := by
  have quotients : lesser / unit ≤ greater / unit := Nat.div_le_div_right le
  rcases Nat.lt_or_eq_of_le quotients with apart | same
  · have lesserBound := (nearestMultiple_bounds unit lesser).2
    have greaterBound := (nearestMultiple_bounds unit greater).1
    omega
  · have remainders : lesser % unit ≤ greater % unit := by
      have lesserSum := Nat.div_add_mod lesser unit
      have greaterSum := Nat.div_add_mod greater unit
      rw [same] at lesserSum
      omega
    rw [nearestMultiple, nearestMultiple, same]
    split <;> split <;> omega

theorem significand_bounds (positive : number ≠ 0) :
    2 ^ 52 ≤ significand number ∧ significand number ≤ 2 ^ 53 := by
  have lower : 2 ^ number.log2 ≤ number := Nat.log2_self_le positive
  have upper : number < 2 ^ (number.log2 + 1) := Nat.lt_log2_self
  by_cases small : number.log2 ≤ 52
  · have least : 2 ^ number.log2 * 2 ^ (52 - number.log2) = 2 ^ 52 := by
      rw [← Nat.pow_add, Nat.add_sub_cancel' small]
    have greatest : 2 ^ (number.log2 + 1) * 2 ^ (52 - number.log2) = 2 ^ 53 := by
      rw [← Nat.pow_add, Nat.add_right_comm, Nat.add_sub_cancel' small]
    rw [significand_of_small small, ← least, ← greatest]
    exact ⟨Nat.mul_le_mul_right _ lower, Nat.mul_le_mul_right _ (Nat.le_of_lt upper)⟩
  · have least : 2 ^ 52 * 2 ^ (number.log2 - 52) = 2 ^ number.log2 := by
      rw [← Nat.pow_add]
      congr 1
      omega
    have greatest : 2 ^ 53 * 2 ^ (number.log2 - 52) = 2 ^ (number.log2 + 1) := by
      rw [← Nat.pow_add]
      congr 1
      omega
    have unit : 0 < 2 ^ (number.log2 - 52) := Nat.two_pow_pos _
    have quotientLower : 2 ^ 52 ≤ number / 2 ^ (number.log2 - 52) := by
      rw [Nat.le_div_iff_mul_le unit, least]
      exact lower
    have quotientUpper : number / 2 ^ (number.log2 - 52) < 2 ^ 53 := by
      rw [Nat.div_lt_iff_lt_mul unit, greatest]
      exact upper
    have bounds := nearestMultiple_bounds (2 ^ (number.log2 - 52)) number
    rw [significand_of_large small]
    omega

/-- Numbers with as many bits are rounded in their order. -/
theorem significand_mono {lesser greater : Nat} (le : lesser ≤ greater)
    (bits : lesser.log2 = greater.log2) : significand lesser ≤ significand greater := by
  by_cases small : greater.log2 ≤ 52
  · rw [significand_of_small small, significand_of_small (bits ▸ small), bits]
    exact Nat.mul_le_mul_right _ le
  · rw [significand_of_large small, significand_of_large (bits ▸ small), bits]
    exact nearestMultiple_mono le

theorem log2_mono {lesser greater : Nat} (positive : lesser ≠ 0) (le : lesser ≤ greater) :
    lesser.log2 ≤ greater.log2 := by
  rw [Nat.le_log2 (by omega)]
  exact Nat.le_trans (Nat.log2_self_le positive) le

/-- Rounding keeps the order of numbers. -/
theorem magnitudeOfNat_mono {lesser greater : Nat} (le : lesser ≤ greater) :
    magnitudeOfNat lesser ≤ magnitudeOfNat greater := by
  by_cases zero : lesser = 0
  · rw [zero, magnitudeOfNat_zero]
    exact Nat.zero_le _
  · have positive : greater ≠ 0 := by omega
    have lesserBounds := significand_bounds zero
    have greaterBounds := significand_bounds positive
    rw [magnitudeOfNat_eq zero, magnitudeOfNat_eq positive]
    rcases Nat.lt_or_eq_of_le (log2_mono zero le) with fewer | bits
    · omega
    · have rounded := significand_mono le bits
      rw [bits]
      omega

/-- The double of a machine integer is finite. -/
theorem magnitudeOfNat_lt (small : number ≤ 2 ^ 63) :
    magnitudeOfNat number < 2047 * 2 ^ 52 := by
  by_cases zero : number = 0
  · rw [zero, magnitudeOfNat_zero]
    omega
  · have bits : number.log2 < 64 := (Nat.log2_lt zero).2 (by omega)
    have bounds := significand_bounds zero
    rw [magnitudeOfNat_eq zero]
    omega

/-! ## The order of scores -/

theorem natAbs_toInt_le (number : Int64) : number.toInt.natAbs ≤ 2 ^ 63 := by
  have lower := number.le_toInt
  have upper := number.toInt_lt
  omega

theorem bits_ofInt64 (number : Int64) :
    (ofInt64 number).bits.toNat =
      if number.toInt < 0 then 2 ^ 63 + magnitudeOfNat number.toInt.natAbs
      else magnitudeOfNat number.toInt.natAbs := by
  have finite := magnitudeOfNat_lt (natAbs_toInt_le number)
  have sign : number < 0 ↔ number.toInt < 0 := Int64.lt_iff_toInt_lt
  rw [ofInt64]
  by_cases negative : number < 0
  · rw [if_pos negative, if_pos (sign.1 negative)]
    exact UInt64.toNat_ofNat_of_lt' (by simp only [UInt64.size]; omega)
  · rw [if_neg negative, if_neg fun below => negative (sign.2 below)]
    exact UInt64.toNat_ofNat_of_lt' (by simp only [UInt64.size]; omega)

theorem isNegative_ofInt64 (number : Int64) :
    (ofInt64 number).isNegative = true ↔ number.toInt < 0 := by
  have finite := magnitudeOfNat_lt (natAbs_toInt_le number)
  rw [isNegative, bits_ofInt64, decide_eq_true_iff]
  split <;> omega

theorem magnitude_ofInt64 (number : Int64) :
    (ofInt64 number).magnitude = magnitudeOfNat number.toInt.natAbs := by
  have finite := magnitudeOfNat_lt (natAbs_toInt_le number)
  rw [magnitude, bits_ofInt64]
  split <;> omega

theorem rank_ofInt64 (number : Int64) :
    (ofInt64 number).rank =
      if number.toInt < 0 then 2 ^ 63 - 1 - magnitudeOfNat number.toInt.natAbs
      else 2 ^ 63 + magnitudeOfNat number.toInt.natAbs := by
  simp only [rank, isNegative_ofInt64, bits_ofInt64]
  split <;> omega

/-- Scores of times are in the order of the times. -/
theorem rank_ofInt64_mono {earlier later : Int64} (le : earlier ≤ later) :
    (ofInt64 earlier).rank ≤ (ofInt64 later).rank := by
  have order : earlier.toInt ≤ later.toInt := Int64.le_iff_toInt_le.1 le
  rw [rank_ofInt64, rank_ofInt64]
  split
  next earlierNegative =>
    split
    next laterNegative =>
      have magnitudes : magnitudeOfNat later.toInt.natAbs ≤ magnitudeOfNat earlier.toInt.natAbs :=
        magnitudeOfNat_mono (by omega)
      omega
    next => omega
  next earlierPositive =>
    have magnitudes : magnitudeOfNat earlier.toInt.natAbs ≤ magnitudeOfNat later.toInt.natAbs :=
      magnitudeOfNat_mono (by omega)
    rw [if_neg (by omega)]
    omega

end DeviceCatalog.Score
