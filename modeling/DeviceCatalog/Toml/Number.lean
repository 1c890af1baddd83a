import DeviceCatalog.Toml.Scan

/-!
# TOML numbers

Integers are decimal with an optional sign, or hexadecimal, octal or binary without one, and fit a
machine integer. Floats have a fraction or an exponent. An underscore may stand between two
digits. A float that is too large for a double is refused when it is positive.
-/

namespace DeviceCatalog.Toml

/-- Further digits of a run, where an underscore may come before each. -/
def moreDigits (base : Nat) : List Char → List Nat × List Char
  | '_' :: char :: rest =>
    match digitOf? base char with
    | some digit => let more := moreDigits base rest; (digit :: more.1, more.2)
    | none => ([], '_' :: char :: rest)
  | char :: rest =>
    match digitOf? base char with
    | some digit => let more := moreDigits base rest; (digit :: more.1, more.2)
    | none => ([], char :: rest)
  | [] => ([], [])

/-- One or more digits. -/
def digits? (base : Nat) : Reader (List Nat)
  | char :: rest => do
    let first ← digitOf? base char
    let more := moreDigits base rest
    return (first :: more.1, more.2)
  | [] => none

/-- Value of digits in a base, the first digit being the leading one. -/
def digitsValue (base : Nat) (digits : List Nat) : Nat :=
  digits.foldl (fun value digit => value * base + digit) 0

/-- An optional sign; whether it is a minus. -/
def sign : List Char → Bool × List Char
  | '+' :: rest => (false, rest)
  | '-' :: rest => (true, rest)
  | input => (false, input)

/-- Decimal digits without a leading zero. -/
def wholeDigits? : Reader (List Nat)
  | '0' :: rest => some ([0], rest)
  | input => digits? 10 input

/-- Whether an integer fits a machine integer. -/
def fitsInt64 (value : Int) : Bool :=
  decide (-0x8000000000000000 ≤ value ∧ value < 0x8000000000000000)

/-- Reads an integer. -/
def integer? : Reader Int
  | '0' :: 'x' :: rest => radix 16 rest
  | '0' :: 'o' :: rest => radix 8 rest
  | '0' :: 'b' :: rest => radix 2 rest
  | input => do
    let (negative, unsigned) := sign input
    let (digits, rest) ← wholeDigits? unsigned
    let magnitude : Int := digitsValue 10 digits
    inRange (if negative then -magnitude else magnitude) rest
where
  /-- Refuses what does not fit. -/
  inRange (value : Int) (rest : List Char) : Option (Int × List Char) :=
    if fitsInt64 value then some (value, rest) else none
  /-- Digits of a base other than ten. -/
  radix (base : Nat) (input : List Char) : Option (Int × List Char) := do
    let (digits, rest) ← digits? base input
    inRange (digitsValue base digits) rest

/-- Reads an exponent. -/
def exponent? : Reader Int
  | mark :: input =>
    if mark = 'e' ∨ mark = 'E' then do
      let (negative, unsigned) := sign input
      let (digits, rest) ← digits? 10 unsigned
      let magnitude : Int := digitsValue 10 digits
      return (if negative then -magnitude else magnitude, rest)
    else none
  | [] => none

/-- Whether `significand * 10 ^ exponent` rounds to infinity, that is, whether it reaches the
point half a step above the largest double. The number of digits decides except near that point.
-/
def overflows (significand : Nat) (exponent : Int) : Bool :=
  if significand = 0 then false
  else
    let places : Int := (Nat.toDigits 10 significand).length + exponent
    if places < 300 then false
    else if 320 < places then true
    else
      let bound := (1 <<< 54 - 1) <<< 970
      decide (bound * Nat.pow 10 (-exponent).toNat ≤ significand * Nat.pow 10 exponent.toNat)

/-- Reads `inf` and `nan`, with an optional sign. -/
def specialFloat? (input : List Char) : Option (List Char) :=
  match (sign input).2 with
  | 'i' :: 'n' :: 'f' :: rest => some rest
  | 'n' :: 'a' :: 'n' :: rest => some rest
  | _ => none

/-- What follows a float with digits. -/
def plainFloat? (input : List Char) : Option (List Char) := do
  let (negative, unsigned) := sign input
  let (whole, afterWhole) ← wholeDigits? unsigned
  let (fraction, exponent, rest) ←
    match afterWhole with
    | '.' :: afterPoint => do
      let (fraction, afterFraction) ← digits? 10 afterPoint
      match exponent? afterFraction with
      | some (exponent, rest) => some (fraction, exponent, rest)
      | none => some (fraction, 0, afterFraction)
    | _ => do
      let (exponent, rest) ← exponent? afterWhole
      some ([], exponent, rest)
  let significand := digitsValue 10 (whole ++ fraction)
  if !negative && overflows significand (exponent - fraction.length) then none
  else some rest

/-- What follows a float. -/
def float? (input : List Char) : Option (List Char) := plainFloat? input <|> specialFloat? input

end DeviceCatalog.Toml
