import DeviceCatalog.Score

/-!
# Decimal text of a score

A finite score is written with the fewest decimal digits that read back as the same double, and
among those with the digits nearest to it; the text is always positional and a whole number has
no fractional part. The digits are found by exact arithmetic: the reals that read back as a given
double form an interval, and a grid of decimals hits the interval exactly when one of the value's
two neighbours on that grid lies in it.
-/

namespace DeviceCatalog.Score

/-- The reals that round to one positive double, as numerators over one denominator. -/
structure RoundingInterval where
  /-- The double itself. -/
  value : Nat
  /-- Halfway to the next smaller double. -/
  lower : Nat
  /-- Halfway to the next larger double. -/
  upper : Nat
  denominator : Nat
  /-- Both halfway points round to the double itself when its significand is even. -/
  closed : Bool

namespace RoundingInterval

/-- The interval of a finite, non-zero double. The step below a power of two is half the step above
it, except at the bottom of the normal range, where the two steps are equal. -/
def ofScore (score : Score) : RoundingInterval :=
  let field := score.exponentField
  let significand := if field = 0 then score.fraction else 1 <<< 52 + score.fraction
  let narrow := score.fraction = 0 ∧ 1 < field
  -- A quarter of the unit in the last place is 2 ^ (shift - 1077).
  let shift := if field = 0 then 1 else field
  let scale := 1 <<< (shift - 1077)
  { value := 4 * significand * scale
    lower := (4 * significand - (if narrow then 1 else 2)) * scale
    upper := (4 * significand + 2) * scale
    denominator := 1 <<< (1077 - shift)
    closed := significand % 2 = 0 }

/-- Whether `digits * 10 ^ up / 10 ^ down` reads back as the double. -/
def holds (interval : RoundingInterval) (digits up down : Nat) : Bool :=
  let point := digits * Nat.pow 10 up * interval.denominator
  if interval.closed then
    decide (interval.lower * Nat.pow 10 down ≤ point ∧ point ≤ interval.upper * Nat.pow 10 down)
  else
    decide (interval.lower * Nat.pow 10 down < point ∧ point < interval.upper * Nat.pow 10 down)

/-- The value's nearest neighbour on the grid of `10 ^ up / 10 ^ down` that reads back, if any. Of
two such neighbours at the same distance the larger one is taken. -/
def onGrid? (interval : RoundingInterval) (up down : Nat) : Option Nat :=
  let step := Nat.pow 10 up * interval.denominator
  let below := interval.value * Nat.pow 10 down / step
  let remainder := interval.value * Nat.pow 10 down % step
  let above := below + 1
  match interval.holds below up down, interval.holds above up down with
  | true, true => if 2 * remainder < step then some below else some above
  | true, false => some below
  | false, true => some above
  | false, false => none

/-- How many tenfold steps keep `numerator / denominator` below one. -/
def zerosAfterPoint : Nat → Nat → Nat → Nat
  | 0, _, _ => 0
  | fuel + 1, numerator, denominator =>
    if numerator * 10 < denominator then
      zerosAfterPoint fuel (numerator * 10) denominator + 1
    else 0

/-- The least `place` with the value below `10 ^ place`. No positive double is below `10 ^ -324`,
which bounds the search. -/
def leadingPlace (interval : RoundingInterval) : Int :=
  let whole := interval.value / interval.denominator
  if whole = 0 then
    -(zerosAfterPoint 330 interval.value interval.denominator : Int)
  else
    ((Nat.toDigits 10 whole).length : Int)

/-- Tries grids of one digit, two digits, and so on; seventeen digits always suffice. The result
`(digits, up, down)` stands for `digits * 10 ^ up / 10 ^ down`. -/
def shortestFrom (interval : RoundingInterval) (place : Int) : Nat → Nat → Nat × Nat × Nat
  | 0, count =>
    (interval.value / interval.denominator, 0, count)
  | fuel + 1, count =>
    let exponent := place - (count : Int)
    let up := exponent.toNat
    let down := (-exponent).toNat
    match interval.onGrid? up down with
    | some digits => (digits, up, down)
    | none => shortestFrom interval place fuel (count + 1)

/-- The fewest decimal digits that read back as the double, nearest to it. -/
def shortest (interval : RoundingInterval) : Nat × Nat × Nat :=
  interval.shortestFrom interval.leadingPlace 17 1

end RoundingInterval

/-- Positional text of `digits / 10 ^ down`, without a fractional part that is all zeros and without
zeros at the end of one. -/
def positional (digits down : Nat) : String :=
  let whole := Nat.toDigits 10 (digits / Nat.pow 10 down)
  let part := Nat.toDigits 10 (digits % Nat.pow 10 down)
  let padded := List.replicate (down - part.length) '0' ++ part
  let kept := (padded.reverse.dropWhile (· == '0')).reverse
  if kept.isEmpty then String.ofList whole
  else String.ofList (whole ++ '.' :: kept)

/-- Decimal text of a score: `NaN` for every NaN pattern, `inf` for an infinity, and a minus sign
for every other negative pattern, negative zero included. -/
def toDecimal (score : Score) : String :=
  if score.isNaN then "NaN"
  else
    let sign := if score.isNegative then "-" else ""
    if score.isInfinite then sign ++ "inf"
    else if score.magnitude = 0 then sign ++ "0"
    else
      let (digits, up, down) := (RoundingInterval.ofScore score).shortest
      sign ++ positional (digits * Nat.pow 10 up) down

/-- Sixteen lowercase hexadecimal digits: the bit pattern itself. -/
def toHex (score : Score) : String :=
  let digits := Nat.toDigits 16 score.bits.toNat
  String.ofList (List.replicate (16 - digits.length) '0' ++ digits)

end DeviceCatalog.Score
