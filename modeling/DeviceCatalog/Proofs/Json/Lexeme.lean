import DeviceCatalog.Json.Token
import Mathlib.Data.List.TakeDrop
import Mathlib.Data.List.TakeWhile

/-!
# Lexemes that are written

A text is written as pieces that are bytes, or code units below the first blank; both stand for
themselves, so reading the pieces gives back the bytes of the text. A machine integer is written as
its decimal digits, without a leading zero, after a sign.
-/

namespace DeviceCatalog.Json

namespace Lexeme

/-- A code point below the first blank is encoded as the byte of its number. -/
theorem bytesOfCode_of_lt : ∀ code < 0x20, bytesOfCode code = [UInt8.ofNat code] := by
  decide +kernel

/-- A code unit that is no half of a surrogate pair names its own code point, whatever follows. -/
theorem bytes?_unit {code : Nat} (notHigh : isHighSurrogate code = false)
    (notLow : isLowSurrogate code = false) (rest : Lexeme) :
    bytes? (.unit code :: rest) = (bytes? rest).map (bytesOfCode code ++ ·) := by
  cases rest with
  | nil => simp [bytes?, notHigh, notLow]
  | cons piece pieces =>
      cases piece with
      | byte value => simp [bytes?, notHigh, notLow]
      | unit low => simp [bytes?, notHigh, notLow]

theorem no_surrogate_of_lt {code : Nat} (small : code < 0xD800) :
    isHighSurrogate code = false ∧ isLowSurrogate code = false := by
  simp only [isHighSurrogate, isLowSurrogate, decide_eq_false_iff_not]
  omega

/-- The pieces of bytes stand for these bytes. -/
theorem bytes?_map_pieceOfByte (bytes : Bytes) : bytes? (bytes.map pieceOfByte) = some bytes := by
  induction bytes with
  | nil => rfl
  | cons byte rest ih =>
      rw [List.map_cons, pieceOfByte]
      split
      next control =>
        have small : byte.toNat < 0x20 := control.1
        obtain ⟨notHigh, notLow⟩ := @no_surrogate_of_lt byte.toNat (by omega)
        rw [bytes?_unit notHigh notLow, ih, bytesOfCode_of_lt _ small, UInt8.ofNat_toNat]
        rfl
      next => rw [bytes?, ih, Option.map_some]

theorem text?_ofText (text : String) : text? (ofText text) = some text := by
  rw [text?, ofText, bytes?_map_pieceOfByte]
  exact Bytes.text?_ofText text

end Lexeme

namespace Number

/-- The byte of a decimal digit. -/
def digitByte (digit : Nat) : UInt8 := UInt8.ofNat (48 + digit)

theorem ofText_digitChar : ∀ digit < 10,
    Bytes.ofText (String.singleton (Nat.digitChar digit)) = [digitByte digit] := by
  decide +kernel

theorem isDigit_digitByte : ∀ digit < 10, isDigit (digitByte digit) = true := by
  decide

theorem digitByte_ne_zero : ∀ digit < 10, 0 < digit → digitByte digit ≠ 48 := by
  decide

theorem toNat_digitByte : ∀ digit < 10, (digitByte digit).toNat - 48 = digit := by
  decide

/-- The digits of a number are those of its tenth and its last digit. -/
theorem ofNat_eq (number : Nat) :
    ofNat number =
      if number < 10 then [digitByte number]
      else ofNat (number / 10) ++ [digitByte (number % 10)] := by
  split
  next single =>
    rw [ofNat, Nat.repr_eq_ofList_toDigits, Nat.toDigits_of_lt_base single]
    exact ofText_digitChar number single
  next several =>
    have last := ofText_digitChar (number % 10) (Nat.mod_lt number (by omega))
    rw [ofNat, Nat.repr_eq_ofList_toDigits, Nat.toDigits_of_base_le (by omega) (by omega),
      String.ofList_append, Bytes.ofText_append, ← last]
    rfl

theorem ofNat_ne_nil (number : Nat) : ofNat number ≠ [] := by
  rw [ofNat_eq]
  split <;> simp

theorem all_isDigit_ofNat (number : Nat) : (ofNat number).all isDigit = true := by
  induction number using Nat.strongRecOn with
  | ind number ih =>
      rw [ofNat_eq]
      split
      next single => simp [isDigit_digitByte number single]
      next several =>
        rw [List.all_append, ih (number / 10) (by omega)]
        simp [isDigit_digitByte (number % 10) (by omega)]

/-- Only zero is written with a leading zero. -/
theorem head?_ofNat {number : Nat} (positive : 0 < number) :
    (ofNat number).head? ≠ some 48 := by
  induction number using Nat.strongRecOn with
  | ind number ih =>
      rw [ofNat_eq]
      split
      next single => simpa using digitByte_ne_zero number single positive
      next several =>
        rw [List.head?_append, List.head?_eq_some_head (ofNat_ne_nil _), Option.some_or,
          ← List.head?_eq_some_head]
        exact ih (number / 10) (by omega) (by omega)

theorem naturalValue_ofNat (number : Nat) : naturalValue (ofNat number) = number := by
  induction number using Nat.strongRecOn with
  | ind number ih =>
      rw [ofNat_eq]
      split
      next single => simpa [naturalValue] using toNat_digitByte number single
      next several =>
        have tenth := ih (number / 10) (by omega)
        rw [naturalValue] at tenth ⊢
        rw [List.foldl_append, tenth, List.foldl_cons, List.foldl_nil,
          toNat_digitByte (number % 10) (by omega)]
        omega

theorem natural?_ofNat (number : Nat) : natural? (ofNat number) = some number := by
  have digits : isDigits (ofNat number) = true := by
    simp [isDigits, ofNat_ne_nil, all_isDigit_ofNat]
  have noLeadingZero : (ofNat number == [48] || (ofNat number).head? != some 48) = true := by
    cases number with
    | zero => rfl
    | succ number => simp [head?_ofNat (Nat.succ_pos number)]
  rw [natural?, digits, noLeadingZero, naturalValue_ofNat]
  rfl

/-- A text of digits does not begin with a sign. -/
theorem integer?_ofNat (number : Nat) : integer? (ofNat number) = some (number : Int) := by
  have digits := all_isDigit_ofNat number
  have value := natural?_ofNat number
  cases written : ofNat number with
  | nil => exact absurd written (ofNat_ne_nil number)
  | cons first rest =>
      rw [written] at digits value
      have unsigned : first ≠ 45 := by
        rintro rfl
        simp [isDigit] at digits
      rw [integer?, value]
      · rfl
      · intro rest same
        cases same
        exact unsigned rfl

theorem integer?_neg_ofNat {number : Nat} (positive : 0 < number) :
    integer? (45 :: ofNat number) = some (-(number : Int)) := by
  rw [integer?, natural?_ofNat]
  cases number with
  | zero => omega
  | succ number => rfl

/-- The lexeme of a machine integer names it. -/
theorem int64?_ofInt64 (number : Int64) : int64? (ofInt64 number) = some number := by
  have named : integer? (ofInt64 number) = some number.toInt := by
    rw [ofInt64]
    split
    next negative =>
      have below : number.toInt < 0 := Int64.lt_iff_toInt_lt.1 negative
      rw [integer?_neg_ofNat (by omega)]
      congr 1
      omega
    next nonnegative =>
      have above : 0 ≤ number.toInt := by
        rw [Int64.lt_iff_toInt_lt] at nonnegative
        exact Int.not_lt.1 nonnegative
      rw [integer?_ofNat]
      congr 1
      omega
  have inRange : -0x8000000000000000 ≤ number.toInt ∧ number.toInt < 0x8000000000000000 :=
    ⟨Int64.le_toInt number, Int64.toInt_lt number⟩
  rw [int64?, named]
  simp only [inRange, and_self, if_true, Int64.ofInt_toInt]

/-- Digits up to the end have neither fraction nor exponent. -/
theorem isUnsigned_ofNat (number : Nat) : isUnsigned (ofNat number) = true := by
  cases number with
  | zero => rfl
  | succ number =>
      have digits := all_isDigit_ofNat (number + 1)
      have noLeadingZero := head?_ofNat (Nat.succ_pos number)
      have nonempty := ofNat_ne_nil (number + 1)
      generalize ofNat (number + 1) = written at digits noLeadingZero nonempty
      have whole : Number.digits written = (written, []) := by
        rw [Number.digits, List.span_eq_takeWhile_dropWhile, List.takeWhile_eq_self_iff.2
          (List.all_eq_true.1 digits), List.dropWhile_eq_nil_iff.2 (List.all_eq_true.1 digits)]
      cases written with
      | nil => exact absurd rfl nonempty
      | cons first rest =>
          rw [isUnsigned, whole]
          · rfl
          · rintro rest same
            cases same
            exact noLeadingZero rfl

theorem isWellFormed_ofInt64 (number : Int64) : isWellFormed (ofInt64 number) = true := by
  rw [ofInt64]
  split
  next => exact isUnsigned_ofNat _
  next =>
    have digits := all_isDigit_ofNat number.toInt.natAbs
    have unsigned := isUnsigned_ofNat number.toInt.natAbs
    generalize ofNat number.toInt.natAbs = written at digits unsigned
    rw [isWellFormed]
    · exact unsigned
    · rintro rest rfl
      simp [isDigit] at digits

theorem all_isWordByte_ofInt64 (number : Int64) :
    (ofInt64 number).all Token.isWordByte = true := by
  have digits : (ofNat number.toInt.natAbs).all Token.isWordByte = true := by
    rw [List.all_eq_true]
    intro byte member
    simp [Token.isWordByte, List.all_eq_true.1 (all_isDigit_ofNat _) byte member]
  rw [ofInt64]
  split
  next => simpa [Token.isWordByte] using digits
  next => exact digits

end Number

end DeviceCatalog.Json
