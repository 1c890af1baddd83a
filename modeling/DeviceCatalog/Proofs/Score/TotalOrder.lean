import DeviceCatalog.Proofs.Score.Nearest

/-!
# The total order of scores

The floating-point standard orders all doubles: numbers by their value, the negative zero before the
positive one, and the NaNs around them. Sorted sets compare scores by their place in this order, which
is read off the bits; here the two are shown to be the same. The value of an infinity is taken to be
that of a number with its exponent, which is beyond every finite one.
-/

namespace DeviceCatalog.Score

/-- One score precedes another one in the total order of the floating-point standard. -/
inductive Precedes (left right : Score) : Prop
  | numbers (leftNumber : left.isNaN = false) (rightNumber : right.isNaN = false)
      (less : left.value < right.value)
  | zeros (leftZero : left.magnitude = 0) (rightZero : right.magnitude = 0)
      (leftSign : left.isNegative = true) (rightSign : right.isNegative = false)
  | negativeNaN (leftNaN : left.isNaN = true) (leftSign : left.isNegative = true)
      (rightNumber : right.isNaN = false)
  | positiveNaN (leftNumber : left.isNaN = false) (rightNaN : right.isNaN = true)
      (rightSign : right.isNegative = false)
  | signs (leftNaN : left.isNaN = true) (rightNaN : right.isNaN = true)
      (leftSign : left.isNegative = true) (rightSign : right.isNegative = false)
  | payloads (leftNaN : left.isNaN = true) (rightNaN : right.isNaN = true)
      (leftSign : left.isNegative = false) (rightSign : right.isNegative = false)
      (less : left.fraction < right.fraction)
  | negativePayloads (leftNaN : left.isNaN = true) (rightNaN : right.isNaN = true)
      (leftSign : left.isNegative = true) (rightSign : right.isNegative = true)
      (greater : right.fraction < left.fraction)

variable {left right : Score}

theorem magnitude_lt (score : Score) : score.magnitude < 2 ^ 63 := Nat.mod_lt _ (by omega)

theorem isNaN_eq_true_iff {score : Score} :
    score.isNaN = true ↔ 2047 * 2 ^ 52 < score.magnitude := decide_eq_true_iff

theorem isNaN_eq_false_iff {score : Score} :
    score.isNaN = false ↔ score.magnitude ≤ 2047 * 2 ^ 52 := by
  rw [← Nat.not_lt, ← isNaN_eq_true_iff, Bool.not_eq_true]

/-- NaNs differ in their fraction alone. -/
theorem magnitude_of_isNaN {score : Score} (nan : score.isNaN = true) :
    score.magnitude = 2047 * 2 ^ 52 + score.fraction := by
  have bound := score.magnitude_lt
  rw [isNaN_eq_true_iff] at nan
  rw [fraction]
  omega

theorem rank_of_negative {score : Score} (negative : score.isNegative = true) :
    score.rank = 2 ^ 63 - 1 - score.magnitude := by
  rw [rank_eq, if_pos negative]

theorem rank_of_not_negative {score : Score} (positive : score.isNegative = false) :
    score.rank = 2 ^ 63 + score.magnitude := by
  rw [rank_eq, positive, if_neg Bool.false_ne_true]

/-- A score has an earlier place than another one when its value is less, and a negative zero has an
earlier place than the positive one. -/
theorem rank_lt_iff_value : left.rank < right.rank ↔
    left.value < right.value ∨ left.magnitude = 0 ∧ right.magnitude = 0 ∧
      left.isNegative = true ∧ right.isNegative = false := by
  have leftBound := left.magnitude_lt
  have zero : multiple 0 = 0 := rfl
  have sizes := @multiple_lt_iff left.magnitude right.magnitude
  have reversed := @multiple_lt_iff right.magnitude left.magnitude
  have leftSize := @multiple_lt_iff 0 left.magnitude
  have rightSize := @multiple_lt_iff 0 right.magnitude
  cases leftSign : left.isNegative with
  | false =>
      rw [rank_of_not_negative leftSign, value_of_not_negative (by simp [leftSign])]
      simp only [reduceCtorEq, false_and, and_false, or_false]
      cases rightSign : right.isNegative with
      | false =>
          rw [rank_of_not_negative rightSign, value_of_not_negative (by simp [rightSign])]
          omega
      | true =>
          rw [rank_of_negative rightSign, value_of_negative rightSign]
          omega
  | true =>
      rw [rank_of_negative leftSign, value_of_negative leftSign]
      cases rightSign : right.isNegative with
      | false =>
          rw [rank_of_not_negative rightSign, value_of_not_negative (by simp [rightSign])]
          simp only [and_true]
          omega
      | true =>
          rw [rank_of_negative rightSign, value_of_negative rightSign]
          simp only [reduceCtorEq, and_false, or_false]
          omega

theorem Precedes.rank_lt (precedes : Precedes left right) : left.rank < right.rank := by
  have leftBound := left.magnitude_lt
  cases precedes with
  | numbers _ _ less => exact rank_lt_iff_value.2 (.inl less)
  | zeros _ _ leftSign rightSign | signs _ _ leftSign rightSign =>
      rw [rank_of_negative leftSign, rank_of_not_negative rightSign]
      omega
  | negativeNaN leftNaN leftSign rightNumber =>
      rw [isNaN_eq_true_iff] at leftNaN
      rw [isNaN_eq_false_iff] at rightNumber
      rw [rank_of_negative leftSign, rank_eq]
      split <;> omega
  | positiveNaN leftNumber rightNaN rightSign =>
      rw [isNaN_eq_false_iff] at leftNumber
      rw [isNaN_eq_true_iff] at rightNaN
      rw [rank_of_not_negative rightSign, rank_eq]
      split <;> omega
  | payloads leftNaN rightNaN leftSign rightSign less =>
      rw [rank_of_not_negative leftSign, rank_of_not_negative rightSign,
        magnitude_of_isNaN leftNaN, magnitude_of_isNaN rightNaN]
      omega
  | negativePayloads leftNaN rightNaN leftSign rightSign greater =>
      rw [magnitude_of_isNaN leftNaN] at leftBound
      rw [rank_of_negative leftSign, rank_of_negative rightSign, magnitude_of_isNaN leftNaN,
        magnitude_of_isNaN rightNaN]
      omega

/-- Two NaNs are ordered by their signs and then by their fractions. -/
theorem precedes_of_isNaN (leftNaN : left.isNaN = true) (rightNaN : right.isNaN = true)
    (lt : left.rank < right.rank) : Precedes left right := by
  have leftSize := magnitude_of_isNaN leftNaN
  have rightSize := magnitude_of_isNaN rightNaN
  cases leftSign : left.isNegative with
  | false =>
      rw [rank_of_not_negative leftSign] at lt
      cases rightSign : right.isNegative with
      | false =>
          rw [rank_of_not_negative rightSign] at lt
          exact .payloads leftNaN rightNaN leftSign rightSign (by omega)
      | true =>
          rw [rank_of_negative rightSign] at lt
          omega
  | true =>
      rw [rank_of_negative leftSign] at lt
      cases rightSign : right.isNegative with
      | false => exact .signs leftNaN rightNaN leftSign rightSign
      | true =>
          rw [rank_of_negative rightSign] at lt
          exact .negativePayloads leftNaN rightNaN leftSign rightSign (by omega)

/-- The places of scores are in the total order of the standard. -/
theorem precedes_iff_rank_lt : Precedes left right ↔ left.rank < right.rank := by
  refine ⟨Precedes.rank_lt, fun lt => ?_⟩
  cases leftNaN : left.isNaN with
  | false =>
      cases rightNaN : right.isNaN with
      | false =>
          rcases rank_lt_iff_value.1 lt with less | ⟨leftZero, rightZero, leftSign, rightSign⟩
          · exact .numbers leftNaN rightNaN less
          · exact .zeros leftZero rightZero leftSign rightSign
      | true =>
          refine .positiveNaN leftNaN rightNaN (Bool.eq_false_iff.2 fun rightSign => ?_)
          rw [isNaN_eq_false_iff] at leftNaN
          rw [isNaN_eq_true_iff] at rightNaN
          rw [rank_of_negative rightSign, rank_eq] at lt
          split at lt <;> omega
  | true =>
      cases rightNaN : right.isNaN with
      | false =>
          refine .negativeNaN leftNaN (Bool.ne_false_iff.1 fun leftSign => ?_) rightNaN
          have bound := right.magnitude_lt
          rw [isNaN_eq_true_iff] at leftNaN
          rw [isNaN_eq_false_iff] at rightNaN
          rw [rank_of_not_negative leftSign, rank_eq] at lt
          split at lt <;> omega
      | true => exact precedes_of_isNaN leftNaN rightNaN lt

end DeviceCatalog.Score
