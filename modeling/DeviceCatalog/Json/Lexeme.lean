import DeviceCatalog.Text

/-!
# String and number lexemes

A JSON string is kept as the pieces between its quotes: bytes, and the code units that `\u` escapes
name. Whether the pieces make up a text is asked only where a text is needed, because a value that
nobody reads may hold bytes that are not UTF-8 and halves of surrogate pairs. In the same way a
number is kept as it was written.
-/

namespace DeviceCatalog.Json

/-- A piece of a string. A short escape is the byte that it stands for. -/
inductive Piece where
  | byte (value : UInt8)
  /-- The UTF-16 code unit of a `\u` escape, below `2 ^ 16`. -/
  | unit (value : Nat)
deriving DecidableEq, Repr

/-- A string as the pieces between its quotes. -/
abbrev Lexeme := List Piece

namespace Lexeme

/-- Whether a code unit is the first half of a surrogate pair. -/
def isHighSurrogate (code : Nat) : Bool := decide (0xD800 ≤ code ∧ code < 0xDC00)

/-- Whether a code unit is the second half of a surrogate pair. -/
def isLowSurrogate (code : Nat) : Bool := decide (0xDC00 ≤ code ∧ code < 0xE000)

/-- The code point that a surrogate pair names. -/
def joinSurrogates (high low : Nat) : Nat :=
  0x10000 + (high - 0xD800) * 0x400 + (low - 0xDC00)

/-- UTF-8 encoding of a code point. -/
def bytesOfCode (code : Nat) : Bytes := Bytes.ofText (String.singleton (Char.ofNat code))

/-- The bytes of a string. Two halves of a surrogate pair that stand side by side name one
character; a half on its own names none. -/
def bytes? : Lexeme → Option Bytes
  | [] => some []
  | .byte value :: rest => (bytes? rest).map (value :: ·)
  | .unit high :: .unit low :: rest =>
    if isHighSurrogate high then
      if isLowSurrogate low then
        (bytes? rest).map (bytesOfCode (joinSurrogates high low) ++ ·)
      else none
    else if isLowSurrogate high then none
    else (bytes? (.unit low :: rest)).map (bytesOfCode high ++ ·)
  | .unit code :: rest =>
    if isHighSurrogate code || isLowSurrogate code then none
    else (bytes? rest).map (bytesOfCode code ++ ·)

/-- The text that a string holds, if it holds one. -/
def text? (lexeme : Lexeme) : Option String := lexeme.bytes? >>= Bytes.text?

/-- The piece for one byte of a text: a control character without a short escape is written as a
code unit. -/
def pieceOfByte (byte : UInt8) : Piece :=
  if byte < 0x20 ∧ byte ∉ [8, 9, 10, 12, 13] then .unit byte.toNat else .byte byte

/-- The pieces of a text, as they are written. -/
def ofText (text : String) : Lexeme := (Bytes.ofText text).map pieceOfByte

end Lexeme

/-- Whether a byte is a decimal digit. -/
def isDigit (byte : UInt8) : Bool := decide (48 ≤ byte ∧ byte ≤ 57)

namespace Number

/-- Splits off the digits at the front. -/
def digits (bytes : Bytes) : Bytes × Bytes := bytes.span isDigit

/-- One or more digits and nothing else. -/
def isDigits (bytes : Bytes) : Bool := !bytes.isEmpty && bytes.all isDigit

/-- An exponent, if one is there, and nothing else. -/
def isExponent : Bytes → Bool
  | [] => true
  | mark :: rest =>
    (mark == 101 || mark == 69) &&
      match rest with
      | 43 :: unsigned => isDigits unsigned
      | 45 :: unsigned => isDigits unsigned
      | unsigned => isDigits unsigned

/-- A fraction and an exponent, each if it is there, and nothing else. -/
def isFraction : Bytes → Bool
  | 46 :: rest =>
    match digits rest with
    | ([], _) => false
    | (_, after) => isExponent after
  | rest => isExponent rest

/-- Digits without a leading zero, then a fraction and an exponent if they are there. -/
def isUnsigned : Bytes → Bool
  | 48 :: rest => isFraction rest
  | rest =>
    match digits rest with
    | ([], _) => false
    | (_, after) => isFraction after

/-- Whether a lexeme is a number. -/
def isWellFormed : Bytes → Bool
  | 45 :: rest => isUnsigned rest
  | rest => isUnsigned rest

/-- Value of a run of decimal digits. -/
def naturalValue (digits : Bytes) : Nat :=
  digits.foldl (fun value digit => value * 10 + (digit.toNat - 48)) 0

/-- The value of digits without a leading zero. -/
def natural? (bytes : Bytes) : Option Nat :=
  if isDigits bytes && (bytes == [48] || bytes.head? != some 48) then some (naturalValue bytes)
  else none

/-- The integer that a lexeme names; a fraction, an exponent and a negative zero name none. -/
def integer? : Bytes → Option Int
  | 45 :: rest =>
    match natural? rest with
    | some 0 => none
    | some magnitude => some (-(magnitude : Int))
    | none => none
  | rest => (natural? rest).map Int.ofNat

/-- The machine integer that a lexeme names. -/
def int64? (lexeme : Bytes) : Option Int64 :=
  match integer? lexeme with
  | some value =>
    if -0x8000000000000000 ≤ value ∧ value < 0x8000000000000000 then some (Int64.ofInt value)
    else none
  | none => none

/-- The digits of a natural number. -/
def ofNat (number : Nat) : Bytes := Bytes.ofText (Nat.repr number)

/-- The lexeme of a machine integer. -/
def ofInt64 (number : Int64) : Bytes :=
  if number < 0 then 45 :: ofNat number.toInt.natAbs else ofNat number.toInt.natAbs

end Number

end DeviceCatalog.Json
