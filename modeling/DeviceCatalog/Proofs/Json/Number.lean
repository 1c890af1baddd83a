import DeviceCatalog.Proofs.Json.Lexeme
import Mathlib.Data.List.Induction

/-!
# The form of numbers

A number is a sign, digits without a leading zero, a fraction and an exponent, each of which but the
digits may be missing. What is taken for a number is exactly what has that form. A number names a machine
integer only by the decimal digits that are written for it.
-/

namespace DeviceCatalog.Json.Number

/-- A fraction, if it is there. -/
def IsFractionPart (bytes : Bytes) : Prop :=
  bytes = [] ∨ ∃ decimals, isDigits decimals = true ∧ bytes = 46 :: decimals

/-- An exponent, if it is there. -/
def IsExponentPart (bytes : Bytes) : Prop :=
  bytes = [] ∨ ∃ mark sign power, (mark = 101 ∨ mark = 69) ∧
    (sign = [] ∨ sign = [43] ∨ sign = [45]) ∧ isDigits power = true ∧ bytes = mark :: (sign ++ power)

/-- The form of a number. -/
def IsNumber (lexeme : Bytes) : Prop :=
  ∃ sign whole fraction exponent, (sign = [] ∨ sign = [45]) ∧
    (whole = [48] ∨ isDigits whole = true ∧ whole.head? ≠ some 48) ∧
    IsFractionPart fraction ∧ IsExponentPart exponent ∧
    lexeme = sign ++ (whole ++ (fraction ++ exponent))

/-! ## Every number is taken for one -/

theorem isDigits_iff {bytes : Bytes} :
    isDigits bytes = true ↔ bytes ≠ [] ∧ ∀ byte ∈ bytes, isDigit byte = true := by
  simp [isDigits]

/-- Digits are split off up to the first byte that is none. -/
theorem digits_append {bytes rest : Bytes} (run : isDigits bytes = true)
    (stops : ∀ byte ∈ rest.head?, isDigit byte = false) : digits (bytes ++ rest) = (bytes, rest) := by
  have all := (isDigits_iff.1 run).2
  have taken : rest.takeWhile isDigit = [] := by
    cases rest with
    | nil => rfl
    | cons byte others => simp [stops byte rfl]
  have dropped : rest.dropWhile isDigit = rest := by
    cases rest with
    | nil => rfl
    | cons byte others => simp [stops byte rfl]
  rw [digits, List.span_eq_takeWhile_dropWhile, List.takeWhile_append_of_pos all,
    List.dropWhile_append_of_pos all, taken, dropped, List.append_nil]

/-- Digits begin with a digit. -/
theorem exists_digit {bytes : Bytes} (run : isDigits bytes = true) :
    ∃ first rest, bytes = first :: rest ∧ isDigit first = true := by
  obtain ⟨nonempty, all⟩ := isDigits_iff.1 run
  obtain ⟨first, rest, rfl⟩ := List.exists_cons_of_ne_nil nonempty
  exact ⟨first, rest, rfl, all first (by simp)⟩

theorem IsExponentPart.isExponent {bytes : Bytes} (exponent : IsExponentPart bytes) :
    isExponent bytes = true := by
  rcases exponent with rfl | ⟨mark, sign, power, letter, signed, run, rfl⟩
  · rfl
  · have marked : (mark == 101 || mark == 69) = true := by
      rcases letter with rfl | rfl <;> rfl
    rcases signed with rfl | rfl | rfl
    · obtain ⟨first, rest, rfl, digit⟩ := exists_digit run
      rw [List.nil_append, Number.isExponent, marked, Bool.true_and]
      · exact run
      · rintro unsigned same
        cases same
        cases digit
      · rintro unsigned same
        cases same
        cases digit
    · change Number.isExponent (mark :: 43 :: power) = true
      rw [Number.isExponent, marked, Bool.true_and]
      exact run
    · change Number.isExponent (mark :: 45 :: power) = true
      rw [Number.isExponent, marked, Bool.true_and]
      exact run

theorem IsExponentPart.stops {bytes : Bytes} (exponent : IsExponentPart bytes) :
    ∀ byte ∈ bytes.head?, isDigit byte = false ∧ byte ≠ 46 := by
  rcases exponent with rfl | ⟨mark, sign, power, letter, _, _, rfl⟩
  · exact nofun
  · rintro _ ⟨⟩
    rcases letter with rfl | rfl <;> decide

theorem isFraction_append {fraction exponent : Bytes} (decimal : IsFractionPart fraction)
    (power : IsExponentPart exponent) : isFraction (fraction ++ exponent) = true := by
  rcases decimal with rfl | ⟨decimals, run, rfl⟩
  · rw [List.nil_append, isFraction]
    · exact power.isExponent
    · rintro rest rfl
      exact (power.stops 46 rfl).2 rfl
  · obtain ⟨first, rest, rfl, _⟩ := exists_digit run
    rw [List.cons_append, isFraction,
      digits_append run fun byte head => (power.stops byte head).1]
    exact power.isExponent

theorem stops_append {fraction exponent : Bytes} (decimal : IsFractionPart fraction)
    (power : IsExponentPart exponent) :
    ∀ byte ∈ (fraction ++ exponent).head?, isDigit byte = false := by
  rcases decimal with rfl | ⟨decimals, _, rfl⟩
  · exact fun byte head => (power.stops byte head).1
  · rintro _ ⟨⟩
    rfl

theorem IsNumber.isWellFormed {lexeme : Bytes} (number : IsNumber lexeme) :
    isWellFormed lexeme = true := by
  obtain ⟨sign, whole, fraction, exponent, signed, natural, decimal, power, rfl⟩ := number
  have unsigned : isUnsigned (whole ++ (fraction ++ exponent)) = true := by
    have rest := isFraction_append decimal power
    rcases natural with rfl | ⟨run, leading⟩
    · exact rest
    · obtain ⟨first, others, rfl, _⟩ := exists_digit run
      rw [isUnsigned, digits_append run (stops_append decimal power)]
      · exact rest
      · rintro after same
        cases same
        exact leading rfl
  rcases signed with rfl | rfl
  · rw [List.nil_append, Number.isWellFormed]
    · exact unsigned
    · intro rest same
      have digit : ∃ first others, whole = first :: others ∧ isDigit first = true := by
        rcases natural with rfl | ⟨run, _⟩
        · exact ⟨48, [], rfl, rfl⟩
        · exact exists_digit run
      obtain ⟨first, others, rfl, digit⟩ := digit
      cases same
      cases digit
  · exact unsigned

theorem IsNumber.ne_nil {lexeme : Bytes} (number : IsNumber lexeme) : lexeme ≠ [] := by
  rintro rfl
  cases number.isWellFormed

/-! ## Nothing else is taken for a number -/

theorem of_digits {bytes run rest : Bytes} (split : digits bytes = (run, rest))
    (nonempty : run ≠ []) : isDigits run = true ∧ bytes = run ++ rest := by
  rw [digits, List.span_eq_takeWhile_dropWhile, Prod.mk.injEq] at split
  obtain ⟨rfl, rfl⟩ := split
  exact ⟨isDigits_iff.2 ⟨nonempty, fun _ => List.mem_takeWhile_imp⟩,
    List.takeWhile_append_dropWhile.symm⟩

theorem isExponentPart_of_isExponent {bytes : Bytes} (exponent : isExponent bytes = true) :
    IsExponentPart bytes := by
  cases bytes with
  | nil => exact .inl rfl
  | cons mark rest =>
      rw [isExponent.eq_def, Bool.and_eq_true, Bool.or_eq_true, beq_iff_eq, beq_iff_eq] at exponent
      obtain ⟨letter, power⟩ := exponent
      split at power
      next unsigned => exact .inr ⟨mark, [43], unsigned, letter, .inr (.inl rfl), power, rfl⟩
      next unsigned => exact .inr ⟨mark, [45], unsigned, letter, .inr (.inr rfl), power, rfl⟩
      next => exact .inr ⟨mark, [], rest, letter, .inl rfl, power, rfl⟩

theorem exists_of_isFraction {bytes : Bytes} (form : isFraction bytes = true) :
    ∃ fraction exponent, IsFractionPart fraction ∧ IsExponentPart exponent ∧
      bytes = fraction ++ exponent := by
  rw [isFraction.eq_def] at form
  split at form
  next rest =>
    split at form
    next => cases form
    next decimals after nonempty split =>
      obtain ⟨run, rfl⟩ := of_digits split nonempty
      exact ⟨46 :: decimals, after, .inr ⟨decimals, run, rfl⟩, isExponentPart_of_isExponent form, rfl⟩
  next => exact ⟨[], bytes, .inl rfl, isExponentPart_of_isExponent form, rfl⟩

theorem exists_of_isUnsigned {bytes : Bytes} (form : isUnsigned bytes = true) :
    ∃ whole fraction exponent, (whole = [48] ∨ isDigits whole = true ∧ whole.head? ≠ some 48) ∧
      IsFractionPart fraction ∧ IsExponentPart exponent ∧
      bytes = whole ++ (fraction ++ exponent) := by
  rw [isUnsigned.eq_def] at form
  split at form
  next rest =>
    obtain ⟨fraction, exponent, decimal, power, rfl⟩ := exists_of_isFraction form
    exact ⟨[48], fraction, exponent, .inl rfl, decimal, power, rfl⟩
  next leading =>
    split at form
    next => cases form
    next whole after nonempty split =>
      obtain ⟨run, rfl⟩ := of_digits split nonempty
      obtain ⟨fraction, exponent, decimal, power, rfl⟩ := exists_of_isFraction form
      refine ⟨whole, fraction, exponent, .inr ⟨run, fun zero => ?_⟩, decimal, power, rfl⟩
      obtain ⟨others, rfl⟩ := List.head?_eq_some_iff.1 zero
      exact leading _ rfl

/-- What is taken for a number has the form of one, and the other way round. -/
theorem isWellFormed_iff {lexeme : Bytes} : isWellFormed lexeme = true ↔ IsNumber lexeme := by
  constructor
  · intro form
    rw [isWellFormed.eq_def] at form
    split at form
    next rest =>
      obtain ⟨whole, fraction, exponent, natural, decimal, power, rfl⟩ := exists_of_isUnsigned form
      exact ⟨[45], whole, fraction, exponent, .inr rfl, natural, decimal, power, rfl⟩
    next =>
      obtain ⟨whole, fraction, exponent, natural, decimal, power, rfl⟩ := exists_of_isUnsigned form
      exact ⟨[], whole, fraction, exponent, .inl rfl, natural, decimal, power, rfl⟩
  · exact IsNumber.isWellFormed

/-- A number is made of bytes that words are made of. -/
theorem IsNumber.all_isWordByte {lexeme : Bytes} (number : IsNumber lexeme) :
    lexeme.all Token.isWordByte = true := by
  obtain ⟨sign, whole, fraction, exponent, signed, natural, decimal, power, rfl⟩ := number
  have run {bytes : Bytes} (digits : isDigits bytes = true) :
      ∀ byte ∈ bytes, Token.isWordByte byte = true := fun byte member => by
    simp [Token.isWordByte, (isDigits_iff.1 digits).2 byte member]
  rw [List.all_eq_true]
  simp only [List.forall_mem_append]
  have none : ∀ byte ∈ ([] : Bytes), Token.isWordByte byte = true := List.forall_mem_nil _
  refine ⟨?_, ?_, ?_, ?_⟩
  · rcases signed with rfl | rfl
    · exact none
    · exact List.forall_mem_cons.2 ⟨rfl, none⟩
  · rcases natural with rfl | ⟨digits, _⟩
    · exact List.forall_mem_cons.2 ⟨rfl, none⟩
    · exact run digits
  · rcases decimal with rfl | ⟨decimals, digits, rfl⟩
    · exact none
    · exact List.forall_mem_cons.2 ⟨rfl, run digits⟩
  · rcases power with rfl | ⟨mark, sign, power, letter, signed, digits, rfl⟩
    · exact none
    · refine List.forall_mem_cons.2 ⟨?_, List.forall_mem_append.2 ⟨?_, run digits⟩⟩
      · rcases letter with rfl | rfl <;> rfl
      · rcases signed with rfl | rfl | rfl
        · exact none
        · exact List.forall_mem_cons.2 ⟨rfl, none⟩
        · exact List.forall_mem_cons.2 ⟨rfl, none⟩

/-! ## Integers -/

theorem digitByte_of_isDigit {byte : UInt8} (digit : isDigit byte = true) :
    byte.toNat - 48 < 10 ∧ digitByte (byte.toNat - 48) = byte := by
  simp only [isDigit, decide_eq_true_eq, UInt8.le_iff_toNat_le] at digit
  have low : (48 : UInt8).toNat = 48 := rfl
  have high : (57 : UInt8).toNat = 57 := rfl
  refine ⟨by omega, ?_⟩
  rw [digitByte, show 48 + (byte.toNat - 48) = byte.toNat by omega, UInt8.ofNat_toNat]

theorem naturalValue_append (bytes : Bytes) (last : UInt8) :
    naturalValue (bytes ++ [last]) = naturalValue bytes * 10 + (last.toNat - 48) := by
  rw [naturalValue, List.foldl_append]
  rfl

/-- Digits without a leading zero are those of their value. -/
theorem eq_ofNat_naturalValue (bytes : Bytes) (run : isDigits bytes = true)
    (leading : bytes = [48] ∨ bytes.head? ≠ some 48) : bytes = ofNat (naturalValue bytes) := by
  induction bytes using List.reverseRecOn with
  | nil => cases run
  | append_singleton bytes last ih =>
      obtain ⟨_, all⟩ := isDigits_iff.1 run
      obtain ⟨small, digit⟩ := digitByte_of_isDigit (all last (by simp))
      rw [naturalValue_append]
      cases bytes with
      | nil =>
          rw [ofNat_eq, naturalValue, List.foldl_nil, Nat.zero_mul, Nat.zero_add, if_pos small, digit]
          rfl
      | cons first rest =>
          have nonzero : first ≠ 48 := by
            rcases leading with single | leading
            · simp at single
            · simpa using leading
          have before : isDigits (first :: rest) = true :=
            isDigits_iff.2 ⟨by simp, fun byte member => all byte (List.mem_append_left _ member)⟩
          have same := ih before (.inr (by simpa using nonzero))
          have positive : 0 < naturalValue (first :: rest) := by
            rw [Nat.pos_iff_ne_zero]
            intro zero
            rw [zero] at same
            exact nonzero (List.cons.inj same).1
          generalize naturalValue (first :: rest) = value at same positive
          rw [same, ofNat_eq (value * 10 + (last.toNat - 48)), if_neg (by omega)]
          congr 2
          · omega
          · rw [show (value * 10 + (last.toNat - 48)) % 10 = last.toNat - 48 by omega, digit]

theorem natural?_eq_some_iff {bytes : Bytes} {number : Nat} :
    natural? bytes = some number ↔ bytes = ofNat number := by
  constructor
  · intro named
    rw [natural?] at named
    split at named
    next form =>
      cases named
      simp only [Bool.and_eq_true, Bool.or_eq_true, beq_iff_eq, bne_iff_ne] at form
      exact eq_ofNat_naturalValue bytes form.1 form.2
    next => cases named
  · rintro rfl
    exact natural?_ofNat number

theorem eq_of_integer? {lexeme : Bytes} {value : Int} (named : integer? lexeme = some value) :
    lexeme = if value < 0 then 45 :: ofNat value.natAbs else ofNat value.natAbs := by
  rw [integer?.eq_def] at named
  split at named
  next rest =>
    cases natural : natural? rest with
    | none =>
        rw [natural] at named
        cases named
    | some magnitude =>
        rw [natural] at named
        cases magnitude with
        | zero => cases named
        | succ lesser =>
            cases named
            rw [natural?_eq_some_iff.1 natural, if_pos (by omega), Int.natAbs_neg,
              Int.natAbs_natCast]
  next =>
    obtain ⟨number, natural, rfl⟩ := Option.map_eq_some_iff.1 named
    rw [if_neg (by simp)]
    exact natural?_eq_some_iff.1 natural

/-- A lexeme names a machine integer only by the digits that are written for it. -/
theorem int64?_eq_some_iff {lexeme : Bytes} {number : Int64} :
    int64? lexeme = some number ↔ lexeme = ofInt64 number := by
  constructor
  · intro named
    rw [int64?] at named
    split at named
    next value integer =>
      split at named
      next inRange =>
        cases named
        have same : (Int64.ofInt value).toInt = value :=
          Int64.toInt_ofInt_of_le inRange.1 inRange.2
        have negative : Int64.ofInt value < 0 ↔ value < 0 := by
          rw [Int64.lt_iff_toInt_lt, same]
          rfl
        rw [ofInt64, same]
        simp only [negative]
        exact eq_of_integer? integer
      next => cases named
    next => cases named
  · rintro rfl
    exact int64?_ofInt64 number

end DeviceCatalog.Json.Number
