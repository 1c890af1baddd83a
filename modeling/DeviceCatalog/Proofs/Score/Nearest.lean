import DeviceCatalog.Proofs.Score
import Mathlib.Order.Monotone.Basic

/-!
# The score of a time is the nearest double

The value of a double, as a whole number of the least positive double, and the proof that no double is
nearer to a machine integer than its score is. Where two doubles are equally near the score is the one
with an even fraction.
-/

namespace DeviceCatalog.Score

/-- The exponent of the least positive double, without its sign. -/
@[irreducible] def leastExponent : Nat := 1074

/-- One, as a number of the least positive double. -/
@[irreducible] def one : Nat := 2 ^ leastExponent

/-- The size of a finite score, as a number of the least positive double. A score without an exponent
has no leading bit. -/
def multiple (magnitude : Nat) : Nat :=
  if magnitude / 2 ^ 52 = 0 then magnitude % 2 ^ 52
  else (2 ^ 52 + magnitude % 2 ^ 52) * 2 ^ (magnitude / 2 ^ 52 - 1)

/-- The value of a finite score, as a number of the least positive double. -/
def value (score : Score) : Int :=
  if score.isNegative then -(multiple score.magnitude : Int) else multiple score.magnitude

/-- How far a value is from a number. -/
def distance (value number : Int) : Nat := (value - number * one).natAbs

/-- The score is the finite double nearest to a number, with an even fraction if another one is as
near. -/
structure Nearest (number : Int) (score : Score) : Prop where
  finite : score.magnitude < 2047 * 2 ^ 52
  least : ∀ other : Score, other.magnitude < 2047 * 2 ^ 52 →
    distance score.value number ≤ distance other.value number
  even : ∀ other : Score, other.magnitude < 2047 * 2 ^ 52 → other.value ≠ score.value →
    distance other.value number = distance score.value number → score.fraction % 2 = 0

/-! ## Multiples of a unit -/

/-- A multiple of a unit is one of the two around a number, or at least a unit further off. -/
theorem multiple_cases (unit number count : Nat) :
    count = number / unit ∨ count = number / unit + 1 ∨
      count * unit + unit ≤ number / unit * unit ∨
        (number / unit + 1) * unit + unit ≤ count * unit := by
  rcases Nat.lt_trichotomy count (number / unit) with below | same | above
  · have far := Nat.mul_le_mul_right unit below
    rw [Nat.succ_mul] at far
    exact .inr (.inr (.inl far))
  · exact .inl same
  · rcases Nat.lt_or_eq_of_le above with above | next
    · have far := Nat.mul_le_mul_right unit above
      rw [Nat.succ_mul] at far
      exact .inr (.inr (.inr far))
    · exact .inr (.inl next.symm)

variable {unit : Nat}

/-- No multiple of a unit is nearer to a number than the nearest one, which is even if another one is as
near. -/
theorem nearestMultiple_spec (positive : 0 < unit) (number count : Nat) :
    ((nearestMultiple unit number * unit : Nat) - number : Int).natAbs ≤
        ((count * unit : Nat) - number : Int).natAbs ∧
      (count ≠ nearestMultiple unit number →
        ((count * unit : Nat) - number : Int).natAbs =
          ((nearestMultiple unit number * unit : Nat) - number : Int).natAbs →
        nearestMultiple unit number % 2 = 0) := by
  have sum := Nat.div_add_mod' number unit
  have remainder := Nat.mod_lt number positive
  have next : (number / unit + 1) * unit = number / unit * unit + unit := Nat.succ_mul _ _
  rw [nearestMultiple]
  rcases multiple_cases unit number count with rfl | rfl | far | far <;> split <;> omega

/-! ## Values of doubles -/

variable {number : Nat}

theorem multiple_magnitudeOfNat (positive : number ≠ 0) :
    multiple (magnitudeOfNat number) = significand number * 2 ^ (number.log2 + 1022) := by
  have bounds := significand_bounds positive
  rw [magnitudeOfNat_eq positive, multiple]
  generalize number.log2 = exponent
  rcases Nat.lt_or_eq_of_le bounds.2 with inside | carried
  · have quotient : ((exponent + 1023) * 2 ^ 52 + (significand number - 2 ^ 52)) / 2 ^ 52 =
        exponent + 1023 := by omega
    have remainder : ((exponent + 1023) * 2 ^ 52 + (significand number - 2 ^ 52)) % 2 ^ 52 =
        significand number - 2 ^ 52 := by omega
    rw [quotient, remainder, if_neg (by omega), Nat.add_sub_cancel' bounds.1]
    rfl
  · have quotient : ((exponent + 1023) * 2 ^ 52 + (significand number - 2 ^ 52)) / 2 ^ 52 =
        exponent + 1024 := by omega
    have remainder : ((exponent + 1023) * 2 ^ 52 + (significand number - 2 ^ 52)) % 2 ^ 52 = 0 := by
      omega
    have doubled : 2 ^ (exponent + 1024 - 1) = 2 * 2 ^ (exponent + 1022) := by
      rw [← Nat.pow_succ']
      rfl
    rw [quotient, remainder, if_neg (by omega), carried, doubled]
    omega

/-- A finite double is a multiple of the unit in the last place of a binade, or it lies below the
binade. -/
theorem multiple_binade (magnitude exponent : Nat) :
    (∃ count, multiple magnitude = count * 2 ^ (exponent + 1022)) ∨
      multiple magnitude ≤ 2 ^ 52 * 2 ^ (exponent + 1022) := by
  have fraction : magnitude % 2 ^ 52 < 2 ^ 52 := Nat.mod_lt _ (by omega)
  rw [multiple]
  split
  next =>
    have unit : 1 ≤ 2 ^ (exponent + 1022) := Nat.one_le_two_pow
    have grown := Nat.mul_le_mul_left (2 ^ 52) unit
    exact .inr (by omega)
  next =>
    rcases Nat.lt_or_ge (magnitude / 2 ^ 52) (exponent + 1023) with below | within
    · refine .inr ?_
      have unit : 2 * 2 ^ (magnitude / 2 ^ 52 - 1) ≤ 2 ^ (exponent + 1022) := by
        rw [← Nat.pow_succ']
        exact Nat.pow_le_pow_right (by omega) (by omega)
      calc (2 ^ 52 + magnitude % 2 ^ 52) * 2 ^ (magnitude / 2 ^ 52 - 1)
          ≤ (2 ^ 52 * 2) * 2 ^ (magnitude / 2 ^ 52 - 1) := Nat.mul_le_mul_right _ (by omega)
        _ = 2 ^ 52 * (2 * 2 ^ (magnitude / 2 ^ 52 - 1)) := Nat.mul_assoc _ _ _
        _ ≤ 2 ^ 52 * 2 ^ (exponent + 1022) := Nat.mul_le_mul_left _ unit
    · refine .inl ⟨(2 ^ 52 + magnitude % 2 ^ 52) *
        2 ^ (magnitude / 2 ^ 52 - 1 - (exponent + 1022)), ?_⟩
      rw [Nat.mul_assoc, ← Nat.pow_add]
      congr 2
      omega

/-- A number of at most fifty-three bits is the value of its double. -/
theorem multiple_of_small (positive : number ≠ 0) (small : number.log2 ≤ 52) :
    multiple (magnitudeOfNat number) = number * one := by
  have exponents : 52 - number.log2 + (number.log2 + 1022) = leastExponent := by
    rw [leastExponent]
    omega
  rw [multiple_magnitudeOfNat positive, significand_of_small small, Nat.mul_assoc, ← Nat.pow_add,
    exponents, one]

theorem last_place (large : ¬ number.log2 ≤ 52) :
    2 ^ (number.log2 + 1022) = 2 ^ (number.log2 - 52) * one := by
  have exponents : number.log2 + 1022 = number.log2 - 52 + leastExponent := by
    rw [leastExponent]
    omega
  rw [exponents, Nat.pow_add, one]

/-- The double of a longer number is the nearest multiple of the last place that it keeps. -/
theorem multiple_of_large (positive : number ≠ 0) (large : ¬ number.log2 ≤ 52) :
    multiple (magnitudeOfNat number) =
      nearestMultiple (2 ^ (number.log2 - 52)) number * 2 ^ (number.log2 - 52) * one := by
  rw [multiple_magnitudeOfNat positive, significand_of_large large, last_place large, Nat.mul_assoc]

/-! ## Distances -/

theorem one_pos : 0 < one := by
  rw [one]
  exact Nat.two_pow_pos leastExponent

theorem distance_mul_one (count : Nat) (number : Int) :
    distance (count * one : Nat) number = ((count : Int) - number).natAbs * one := by
  rw [distance, Int.natCast_mul, ← Int.sub_mul, Int.natAbs_mul, Int.natAbs_natCast]

theorem even_fraction (positive : number ≠ 0) (even : significand number % 2 = 0) :
    magnitudeOfNat number % 2 ^ 52 % 2 = 0 := by
  have bounds := significand_bounds positive
  rw [magnitudeOfNat_eq positive]
  omega

/-- A value is no nearer to a number than a double is, and if it is as near the double has an even
fraction. -/
structure Yields (number magnitude : Nat) (value : Int) : Prop where
  least : distance (multiple magnitude) number ≤ distance value number
  even : value ≠ multiple magnitude →
    distance value number = distance (multiple magnitude) number → magnitude % 2 ^ 52 % 2 = 0

/-- Where the double is exact, nothing is as near. -/
theorem yields_of_small (positive : number ≠ 0) (small : number.log2 ≤ 52) (value : Int) :
    Yields number (magnitudeOfNat number) value := by
  have exact : distance (multiple (magnitudeOfNat number)) number = 0 := by
    rw [multiple_of_small positive small, distance_mul_one, Int.sub_self]
    exact Nat.zero_mul _
  constructor
  · rw [exact]
    exact Nat.zero_le _
  · intro different tie
    rw [exact, distance] at tie
    rw [multiple_of_small positive small] at different
    omega

/-- Among the multiples of the last place that the double keeps, none is nearer. -/
theorem yields_of_large (positive : number ≠ 0) (large : ¬ number.log2 ≤ 52) (count : Nat) :
    Yields number (magnitudeOfNat number) (count * 2 ^ (number.log2 - 52) * one : Nat) := by
  have spec := nearestMultiple_spec (Nat.two_pow_pos (number.log2 - 52)) number count
  constructor
  · rw [multiple_of_large positive large, distance_mul_one, distance_mul_one]
    exact Nat.mul_le_mul_right _ spec.1
  · rw [multiple_of_large positive large, distance_mul_one, distance_mul_one]
    intro different tie
    have apart : count ≠ nearestMultiple (2 ^ (number.log2 - 52)) number := by
      rintro rfl
      exact different rfl
    refine even_fraction positive ?_
    rw [significand_of_large large]
    exact spec.2 apart (Nat.eq_of_mul_eq_mul_right one_pos tie)

/-- A value further below the number than another one is not as near. -/
theorem Yields.below {magnitude lower upper : Nat} (yields : Yields number magnitude (upper : Int))
    (lt : lower < upper) (le : upper ≤ number * one) : Yields number magnitude (lower : Int) := by
  have farther : distance (upper : Int) number < distance (lower : Int) number := by
    rw [distance, distance]
    omega
  have least := yields.least
  exact ⟨by omega, fun _ tie => absurd tie (by omega)⟩

/-- No double is nearer to a number than the one that stands for it. -/
theorem yields_multiple (positive : number ≠ 0) (magnitude : Nat) :
    Yields number (magnitudeOfNat number) (multiple magnitude) := by
  by_cases small : number.log2 ≤ 52
  · exact yields_of_small positive small _
  · have places := last_place small
    rcases multiple_binade magnitude number.log2 with ⟨count, value⟩ | below
    · rw [value, places, ← Nat.mul_assoc]
      exact yields_of_large positive small count
    · rw [places, ← Nat.mul_assoc] at below
      have bottom := yields_of_large positive small (2 ^ 52)
      rcases Nat.lt_or_eq_of_le below with lower | value
      · have least : 2 ^ 52 * 2 ^ (number.log2 - 52) ≤ number := by
          rw [← Nat.pow_add, Nat.add_sub_cancel' (by omega)]
          exact Nat.log2_self_le positive
        exact bottom.below lower (Nat.mul_le_mul_right _ least)
      · rw [value]
        exact bottom

theorem distance_neg (value number : Int) :
    distance (-value) (-number) = distance value number := by
  rw [distance, distance, Int.neg_mul]
  omega

/-- A double on the other side of zero is no nearer than zero is. -/
theorem yields_neg_multiple (positive : number ≠ 0) (magnitude : Nat) :
    Yields number (magnitudeOfNat number) (-(multiple magnitude : Int)) := by
  have spec := yields_multiple positive 0
  have zero : (multiple 0 : Int) = 0 := rfl
  have nearer : distance 0 number + multiple magnitude =
      distance (-(multiple magnitude : Int)) number := by
    have side : 0 ≤ (number : Int) * one :=
      Int.mul_nonneg (Int.natCast_nonneg number) (Int.natCast_nonneg one)
    rw [distance, distance]
    omega
  rw [zero] at spec
  have least := spec.least
  refine ⟨by omega, fun different tie => spec.even (fun same => ?_) (by omega)⟩
  have here : (multiple magnitude : Int) = 0 := by omega
  rw [here, ← same] at different
  exact different rfl

/-! ## Scores of times -/

theorem value_of_negative {score : Score} (negative : score.isNegative = true) :
    score.value = -(multiple score.magnitude : Int) := by
  rw [value, if_pos negative]

theorem value_of_not_negative {score : Score} (positive : ¬ score.isNegative = true) :
    score.value = multiple score.magnitude := by
  rw [value, if_neg positive]

theorem yields_value (positive : number ≠ 0) (score : Score) :
    Yields number (magnitudeOfNat number) score.value := by
  by_cases negative : score.isNegative = true
  · rw [value_of_negative negative]
    exact yields_neg_multiple positive score.magnitude
  · rw [value_of_not_negative negative]
    exact yields_multiple positive score.magnitude

theorem yields_neg_value (positive : number ≠ 0) (score : Score) :
    Yields number (magnitudeOfNat number) (-score.value) := by
  by_cases negative : score.isNegative = true
  · rw [value_of_negative negative, Int.neg_neg]
    exact yields_multiple positive score.magnitude
  · rw [value_of_not_negative negative]
    exact yields_neg_multiple positive score.magnitude

/-- The score of a time is the nearest double. -/
theorem nearest_ofInt64 (number : Int64) : Nearest number.toInt (ofInt64 number) := by
  have sign := isNegative_ofInt64 number
  have size := magnitude_ofInt64 number
  have finite := magnitudeOfNat_lt (natAbs_toInt_le number)
  rcases Int.lt_trichotomy number.toInt 0 with negative | zero | positive
  · have own := value_of_negative (sign.2 negative)
    have yields := @yields_neg_value number.toInt.natAbs (by omega)
    have reflected (value : Int) :
        distance value number.toInt = distance (-value) number.toInt.natAbs := by
      rw [← distance_neg]
      congr 1
      omega
    rw [size] at own
    refine ⟨size ▸ finite, fun other _ => ?_, fun other _ different tie => ?_⟩
    · rw [reflected, reflected, own, Int.neg_neg]
      exact (yields other).least
    · rw [reflected, reflected, own, Int.neg_neg] at tie
      rw [fraction, size]
      exact (yields other).even (by omega) tie
  · have own : (ofInt64 number).value = 0 := by
      rw [value_of_not_negative (by rw [sign]; omega), size, zero]
      rfl
    have reached (value : Int) : distance value number.toInt = value.natAbs := by
      rw [distance, zero, Int.zero_mul, Int.sub_zero]
    refine ⟨size ▸ finite, fun other _ => ?_, fun other _ different tie => ?_⟩
    · rw [reached, reached, own]
      exact Nat.zero_le _
    · rw [reached, reached, own] at tie
      exact absurd (Int.natAbs_eq_zero.1 tie) (own ▸ different)
  · have own := value_of_not_negative fun negative => Int.lt_asymm positive (sign.1 negative)
    have yields := @yields_value number.toInt.natAbs (by omega)
    have same : number.toInt = number.toInt.natAbs := by omega
    rw [size] at own
    refine ⟨size ▸ finite, fun other _ => ?_, fun other _ different tie => ?_⟩
    · rw [own, same]
      exact (yields other).least
    · rw [own, same] at tie
      rw [fraction, size]
      exact (yields other).even (own ▸ different) tie

/-! ## The order of values -/

theorem multiple_lt_succ (magnitude : Nat) : multiple magnitude < multiple (magnitude + 1) := by
  have fraction : magnitude % 2 ^ 52 < 2 ^ 52 := Nat.mod_lt _ (by omega)
  rcases Nat.lt_or_eq_of_le (Nat.succ_le_of_lt fraction) with inside | last
  · have exponent : (magnitude + 1) / 2 ^ 52 = magnitude / 2 ^ 52 := by omega
    have next : (magnitude + 1) % 2 ^ 52 = magnitude % 2 ^ 52 + 1 := by omega
    rw [multiple, multiple, exponent, next]
    split
    next => exact Nat.lt_succ_self _
    next => exact Nat.mul_lt_mul_of_pos_right (Nat.lt_succ_self _) (Nat.two_pow_pos _)
  · have exponent : (magnitude + 1) / 2 ^ 52 = magnitude / 2 ^ 52 + 1 := by omega
    have next : (magnitude + 1) % 2 ^ 52 = 0 := by omega
    rw [multiple, multiple, exponent, next, if_neg (Nat.succ_ne_zero _), Nat.add_sub_cancel]
    split
    next bottom =>
      rw [bottom]
      omega
    next higher =>
      have doubled : 2 ^ (magnitude / 2 ^ 52) = 2 * 2 ^ (magnitude / 2 ^ 52 - 1) := by
        rw [← Nat.pow_succ', Nat.succ_eq_add_one, Nat.sub_add_cancel (by omega)]
      rw [doubled, ← Nat.mul_assoc]
      exact Nat.mul_lt_mul_of_pos_right (by omega) (Nat.two_pow_pos _)

theorem multiple_lt_iff {lesser greater : Nat} :
    multiple lesser < multiple greater ↔ lesser < greater :=
  (strictMono_nat_of_lt_succ multiple_lt_succ).lt_iff_lt

theorem rank_eq (score : Score) :
    score.rank =
      if score.isNegative then 2 ^ 63 - 1 - score.magnitude else 2 ^ 63 + score.magnitude := by
  have bound := score.bits.toNat_lt
  simp only [rank, isNegative, magnitude, decide_eq_true_eq]
  split <;> omega

/-- Scores are in the order of their values, unless one of them is the negative zero. -/
theorem rank_lt_iff {left right : Score}
    (leftSigned : left.isNegative = true → left.magnitude ≠ 0)
    (rightSigned : right.isNegative = true → right.magnitude ≠ 0) :
    left.rank < right.rank ↔ left.value < right.value := by
  have leftBound : left.magnitude < 2 ^ 63 := Nat.mod_lt _ (by omega)
  have rightBound : right.magnitude < 2 ^ 63 := Nat.mod_lt _ (by omega)
  have zero : multiple 0 = 0 := rfl
  have sizes := @multiple_lt_iff left.magnitude right.magnitude
  have reversed := @multiple_lt_iff right.magnitude left.magnitude
  have leftSize := @multiple_lt_iff 0 left.magnitude
  have rightSize := @multiple_lt_iff 0 right.magnitude
  rw [rank_eq, rank_eq, value, value]
  by_cases leftSign : left.isNegative = true
  · have leftNonzero := leftSigned leftSign
    rw [if_pos leftSign, if_pos leftSign]
    by_cases rightSign : right.isNegative = true
    · have rightNonzero := rightSigned rightSign
      rw [if_pos rightSign, if_pos rightSign]
      omega
    · rw [if_neg rightSign, if_neg rightSign]
      omega
  · rw [if_neg leftSign, if_neg leftSign]
    by_cases rightSign : right.isNegative = true
    · have rightNonzero := rightSigned rightSign
      rw [if_pos rightSign, if_pos rightSign]
      omega
    · rw [if_neg rightSign, if_neg rightSign]
      omega

theorem signed_ofInt64 {number : Int64} (negative : (ofInt64 number).isNegative = true) :
    (ofInt64 number).magnitude ≠ 0 := by
  have sign := (isNegative_ofInt64 number).1 negative
  have bounds := @significand_bounds number.toInt.natAbs (by omega)
  rw [magnitude_ofInt64, magnitudeOfNat_eq (by omega)]
  omega

/-- A number up to the power of two that has fifty-four bits is the value of its double. -/
theorem multiple_of_le (small : number ≤ 2 ^ 53) :
    multiple (magnitudeOfNat number) = number * one := by
  by_cases zero : number = 0
  · rw [zero, Nat.zero_mul]
    rfl
  · rcases Nat.lt_or_eq_of_le small with inside | rfl
    · have bits : number.log2 < 53 := (Nat.log2_lt zero).2 inside
      exact multiple_of_small zero (by omega)
    · have bits : Nat.log2 (2 ^ 53) = 53 := Nat.log2_two_pow
      rw [multiple_of_large zero (by omega), bits]
      rfl

/-- Up to this power of two a time is the value of its score. -/
theorem value_ofInt64 {number : Int64} (small : number.toInt.natAbs ≤ 2 ^ 53) :
    (ofInt64 number).value = number.toInt * one := by
  have sign := isNegative_ofInt64 number
  rw [value, magnitude_ofInt64, multiple_of_le small]
  by_cases negative : number.toInt < 0
  · have same : number.toInt = -(number.toInt.natAbs : Int) := by omega
    rw [if_pos (sign.2 negative), Int.natCast_mul, ← Int.neg_mul, ← same]
  · have same : (number.toInt.natAbs : Int) = number.toInt := by omega
    rw [if_neg fun below => negative (sign.1 below), Int.natCast_mul, same]

end DeviceCatalog.Score
