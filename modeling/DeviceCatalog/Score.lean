/-!
# Scores

A score is a double, kept as its 64 bits. Sorted sets order scores by the total order of the
floating-point standard, which tells the two zeros and all NaN patterns apart; batches compare
scores by numeric equality, which does not. Neither order needs floating-point arithmetic: both
are read off the bits, so statements about them are statements about natural numbers.
-/

namespace DeviceCatalog

/-- A double, named by its bit pattern: sign, eleven exponent bits, fifty-two fraction bits. -/
structure Score where
  bits : UInt64
deriving DecidableEq, Repr, Inhabited

namespace Score

/-- The score zero (with the positive sign). -/
def zero : Score := ⟨0⟩

/-- Whether the sign bit is set; a negative zero and a negative NaN count as negative. -/
def isNegative (score : Score) : Bool := decide (0x8000000000000000 ≤ score.bits.toNat)

/-- The bits without the sign. -/
def magnitude (score : Score) : Nat := score.bits.toNat % 0x8000000000000000

/-- The eleven exponent bits. -/
def exponentField (score : Score) : Nat := score.magnitude / 0x10000000000000

/-- The fifty-two fraction bits. -/
def fraction (score : Score) : Nat := score.magnitude % 0x10000000000000

/-- An exponent of all ones with a fraction is no number. -/
def isNaN (score : Score) : Bool := decide (0x7FF0000000000000 < score.magnitude)

/-- An exponent of all ones without a fraction is an infinity. -/
def isInfinite (score : Score) : Bool := decide (score.magnitude = 0x7FF0000000000000)

/-- Place of a score in the total order, counted from the least bit pattern: negative patterns
descend as their magnitude grows, the others ascend above them. -/
def rank (score : Score) : Nat :=
  if score.isNegative then 0xFFFFFFFFFFFFFFFF - score.bits.toNat
  else 0x8000000000000000 + score.bits.toNat

/-- Distinct bit patterns have distinct places, so the total order is antisymmetric on patterns. -/
theorem rank_injective {left right : Score} (same : left.rank = right.rank) : left = right := by
  rcases left with ⟨left⟩
  rcases right with ⟨right⟩
  have leftBound := left.toNat_lt
  have rightBound := right.toNat_lt
  simp only [rank, isNegative, decide_eq_true_eq] at same
  simp only [Score.mk.injEq]
  apply UInt64.toNat_inj.1
  split at same <;> split at same <;> omega

/-- Scores are ordered by their place in the total order. -/
instance : Ord Score := ⟨fun left right => compare left.rank right.rank⟩

theorem compare_eq (left right : Score) : compare left right = compare left.rank right.rank := rfl

instance : Std.TransOrd Score where
  eq_swap := Std.OrientedOrd.eq_swap (α := Nat)
  isLE_trans := Std.TransOrd.isLE_trans (α := Nat)

instance : Std.LawfulEqOrd Score where
  eq_of_compare := fun same => rank_injective (Std.LawfulEqOrd.eq_of_compare (α := Nat) same)

/-- Numeric equality: the zeros are equal whatever their sign, and a NaN equals nothing. -/
def numericallyEqual (left right : Score) : Bool :=
  !left.isNaN && !right.isNaN &&
    (left == right || (left.magnitude == 0 && right.magnitude == 0))

/-- The double nearest to a natural number below 2^64, a half going to the even neighbour.

A number of at most fifty-three bits is exact. A longer one keeps its leading fifty-three bits,
and the remainder decides whether the next double is nearer; adding one to the fraction carries
into the exponent by itself when the fraction is all ones. -/
def magnitudeOfNat (number : Nat) : Nat :=
  if number = 0 then 0
  else
    let exponent := Nat.log2 number
    let kept :=
      if exponent ≤ 52 then number <<< (52 - exponent)
      else
        let unit := 1 <<< (exponent - 52)
        let quotient := number / unit
        let twice := 2 * (number % unit)
        if unit < twice ∨ (twice = unit ∧ quotient % 2 = 1) then quotient + 1 else quotient
    (exponent + 1023) <<< 52 + (kept - 1 <<< 52)

/-- The double nearest to a machine integer, a half going to the even neighbour. -/
def ofInt64 (number : Int64) : Score :=
  if number < 0 then
    ⟨(0x8000000000000000 + magnitudeOfNat number.toInt.natAbs).toUInt64⟩
  else
    ⟨(magnitudeOfNat number.toInt.natAbs).toUInt64⟩

end Score

end DeviceCatalog
