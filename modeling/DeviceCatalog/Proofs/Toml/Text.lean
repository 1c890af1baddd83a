import DeviceCatalog.Toml.Text

/-!
# Strings are read as they were written

A string is written in one of four forms, with or without escapes, and all of them read back as the
string, whatever follows it. Between three marks the reader looks up to five characters ahead, so the
marks that stand right before a text are taken along in the proofs: at its end they stand next to the
closing ones, and before any other character they belong to the string.
-/

namespace DeviceCatalog.Toml

/-! ## Characters between quotes -/

theorem charOfHex?_controlDigits_ofNat : ∀ code < 128, needsEscape (Char.ofNat code) = true →
    (controlDigits (Char.ofNat code)).length = 4 ∧
      charOfHex? (controlDigits (Char.ofNat code)) = some (Char.ofNat code) := by
  decide +kernel

/-- A control character has four digits, which name it. -/
theorem exists_controlDigits {char : Char} (control : needsEscape char = true) :
    ∃ a b c d, controlDigits char = [a, b, c, d] ∧ charOfHex? [a, b, c, d] = some char := by
  have small : char.toNat < 128 := by
    simp only [needsEscape, Bool.and_eq_true, decide_eq_true_eq] at control
    omega
  have read := charOfHex?_controlDigits_ofNat char.toNat small
  rw [Char.ofNat_toNat] at read
  obtain ⟨four, named⟩ := read control
  match digits : controlDigits char, four with
  | [a, b, c, d], _ => exact ⟨a, b, c, d, rfl, digits ▸ named⟩

theorem isTextChar_of_not_needsEscape {char : Char} (plain : needsEscape char = false)
    (noLineFeed : char ≠ '\n') : isTextChar char = true := by
  by_cases tab : char = '\t'
  · simp [isTextChar, tab]
  · have printable : ¬ (char.toNat < 0x20 ∨ char.toNat = 0x7f) := by
      simpa [needsEscape, tab, noLineFeed] using plain
    simp only [isTextChar, Bool.or_eq_true, decide_eq_true_eq]
    omega

theorem ne_return_of_isTextChar {char : Char} (text : isTextChar char = true) : char ≠ '\r' := by
  rintro rfl
  cases text

/-- How a character may stand between quotes, on one line or on several. -/
inductive Escaped (severalLines : Bool) (char : Char) : List Char → Prop where
  | short {letter : Char} (named : shortEscape? letter = some char) :
      Escaped severalLines char ['\\', letter]
  | code {a b c d : Char} (named : charOfHex? [a, b, c, d] = some char) :
      Escaped severalLines char ['\\', 'u', a, b, c, d]
  | plain (text : isTextChar char = true) (noQuote : char ≠ '\x22') (noBackslash : char ≠ '\\') :
      Escaped severalLines char [char]
  | lineFeed (several : severalLines = true) (same : char = '\n') :
      Escaped severalLines char ['\n']

variable {severalLines : Bool} {char : Char} {written text rest : List Char} {pending : Nat}

theorem Escaped.quote (severalLines : Bool) : Escaped severalLines '\x22' ['\\', '\x22'] :=
  .short (by simp [shortEscape?])

theorem escaped_escapeChar (severalLines : Bool) (noQuote : char ≠ '\x22') :
    Escaped severalLines char (escapeChar severalLines char) := by
  fun_cases escapeChar severalLines char with
  | case1 same | case2 _ same | case4 _ _ same _ | case5 _ _ _ same | case6 _ _ _ _ same
  | case7 _ _ _ _ _ same =>
      rw [same]
      exact .short rfl
  | case3 _ _ same several => exact .lineFeed several same
  | case8 _ _ _ _ _ _ control =>
      obtain ⟨a, b, c, d, digits, named⟩ := exists_controlDigits control
      rw [digits]
      exact .code named
  | case9 _ _ noLineFeed _ _ noBackslash plain =>
      have text := isTextChar_of_not_needsEscape (Bool.not_eq_true _ ▸ plain) noLineFeed
      exact .plain text noQuote noBackslash

/-- What stands for a character begins with no quote. It begins with a line end only when the
character is one. -/
theorem Escaped.exists_cons (escaped : Escaped severalLines char written) :
    ∃ next more, written = next :: more ∧ next ≠ '\x22' ∧ next ≠ '\r' ∧
      (next = '\n' → char = '\n') := by
  cases escaped with
  | short named => exact ⟨_, _, rfl, by decide, by decide, nofun⟩
  | code named => exact ⟨_, _, rfl, by decide, by decide, nofun⟩
  | plain text noQuote noBackslash =>
      exact ⟨_, _, rfl, noQuote, ne_return_of_isTextChar text, id⟩
  | lineFeed several same => exact ⟨_, _, rfl, by decide, by decide, fun _ => same⟩

/-- A short escape is no other one, and it is not the end of a line. -/
theorem not_mem_of_shortEscape? {letter : Char} (named : shortEscape? letter = some char) :
    letter ∉ ['u', 'U', ' ', '\t', '\n', '\r'] := by
  intro listed
  simp only [List.mem_cons, List.not_mem_nil, or_false] at listed
  rcases listed with rfl | rfl | rfl | rfl | rfl | rfl <;> simp [shortEscape?] at named

/-! ## Between quotes on one line -/

theorem quotedLine_of_escaped (escaped : Escaped false char written) (rest : List Char) :
    quotedLine (written ++ rest) = push char (quotedLine rest) := by
  cases escaped with
  | short named =>
      have letter := not_mem_of_shortEscape? named
      simp only [List.mem_cons, not_or] at letter
      simp [quotedLine, named, letter]
  | code named => simp [quotedLine, named]
  | plain text noQuote noBackslash => simp [quotedLine, text, noBackslash]
  | lineFeed several same => cases several

theorem quotedLine_escapeText (text rest : List Char) :
    quotedLine (escapeText false 0 text ++ '\x22' :: rest) = some (text, rest) := by
  induction text with
  | nil => simp [escapeText, quotedLine]
  | cons char text ih =>
      have read {written : List Char} (escaped : Escaped false char written) :
          quotedLine (written ++ (escapeText false 0 text ++ '\x22' :: rest)) =
            some (char :: text, rest) := by
        rw [quotedLine_of_escaped escaped, ih]
        rfl
      rw [escapeText]
      split
      next quote =>
        rw [quote] at read ⊢
        exact read (.quote false)
      next noQuote =>
        rw [List.append_assoc]
        exact read (escaped_escapeChar false noQuote)

/-! ## Between quotes on several lines -/

theorem ne_cons_of_head? (follow : rest.head? ≠ some char) (more : List Char) :
    rest ≠ char :: more := by
  rintro rfl
  exact follow rfl

theorem quotedLines_of_escaped (escaped : Escaped true char written) (rest : List Char) :
    quotedLines .content (written ++ rest) = push char (quotedLines .content rest) := by
  cases escaped with
  | short named =>
      have letter := not_mem_of_shortEscape? named
      simp only [List.mem_cons, not_or] at letter
      simp [quotedLines, named, letter, isBlank]
  | code named => simp [quotedLines, named]
  | plain text noQuote noBackslash =>
      have noReturn := ne_return_of_isTextChar text
      simp [quotedLines, text, noBackslash, noQuote, noReturn]
  | lineFeed several same => simp [quotedLines, same]

/-- Up to two quotes before anything else belong to the string. -/
theorem quotedLines_replicate (few : pending ≤ 2) {next : Char} (noQuote : next ≠ '\x22')
    (rest : List Char) :
    quotedLines .content (List.replicate pending '\x22' ++ next :: rest) =
      (quotedLines .content (next :: rest)).map fun read =>
        (List.replicate pending '\x22' ++ read.1, read.2) := by
  match pending, few with
  | 0, _ => simp
  | 1, _ => simp [quotedLines, noQuote, push, isTextChar]
  | 2, _ => simp [List.replicate, quotedLines, noQuote, push, isTextChar, Function.comp_def]

/-- Up to two quotes before the closing ones belong to the string. -/
theorem quotedLines_closing (few : pending ≤ 2) (follow : rest.head? ≠ some '\x22') :
    quotedLines .content (List.replicate pending '\x22' ++ (List.replicate 3 '\x22' ++ rest)) =
      some (List.replicate pending '\x22', rest) := by
  have apart := ne_cons_of_head? follow
  match pending, few with
  | 0, _ => simp [List.replicate, quotedLines, apart]
  | 1, _ => simp [List.replicate, quotedLines]
  | 2, _ => simp [List.replicate, quotedLines]

theorem quotedLines_escapeText (follow : rest.head? ≠ some '\x22') (few : pending ≤ 2) :
    quotedLines .content (List.replicate pending '\x22' ++
        (escapeText true pending text ++ (List.replicate 3 '\x22' ++ rest))) =
      some (List.replicate pending '\x22' ++ text, rest) := by
  induction text generalizing pending with
  | nil => simpa [escapeText] using quotedLines_closing few follow
  | cons char text ih =>
      have others := @ih 0 (by decide)
      have read {written : List Char} (escaped : Escaped true char written) :
          quotedLines .content (List.replicate pending '\x22' ++
              (written ++ (escapeText true 0 text ++ (List.replicate 3 '\x22' ++ rest)))) =
            some (List.replicate pending '\x22' ++ char :: text, rest) := by
        obtain ⟨next, more, rfl, noQuote, _⟩ := escaped.exists_cons
        rw [List.cons_append, quotedLines_replicate few noQuote, ← List.cons_append,
          quotedLines_of_escaped escaped]
        simp only [List.replicate_zero, List.nil_append] at others
        rw [others]
        rfl
      rw [escapeText, if_pos rfl]
      split
      next quote =>
        rw [quote] at read ⊢
        split
        next full => exact read (.quote true)
        next free =>
          have fewer : pending + 1 ≤ 2 := by omega
          have longer := ih fewer
          rw [List.replicate_succ', List.append_assoc, List.append_assoc] at longer
          exact longer
      next noQuote =>
        rw [List.append_assoc]
        exact read (escaped_escapeChar true noQuote)

/-! ## Between apostrophes -/

/-- One step of counting the longest run of a character: the run so far and the longest one. -/
def countRun (mark : Char) (run : Nat × Nat) (char : Char) : Nat × Nat :=
  if char = mark then (run.1 + 1, max run.2 (run.1 + 1)) else (0, run.2)

theorem le_foldl_countRun (mark : Char) (text : List Char) (run : Nat × Nat) :
    run.2 ≤ (text.foldl (countRun mark) run).2 := by
  induction text generalizing run with
  | nil => exact Nat.le_refl run.2
  | cons char text ih =>
      refine Nat.le_trans ?_ (ih (countRun mark run char))
      rw [countRun]
      split
      next => exact Nat.le_max_left _ _
      next => exact Nat.le_refl run.2

/-- A run that goes on is no longer than the longest one. -/
theorem lt_foldl_countRun (mark : Char) (text : List Char) (run : Nat × Nat) :
    run.1 < ((mark :: text).foldl (countRun mark) run).2 := by
  have counted := le_foldl_countRun mark text (countRun mark run mark)
  have longer : run.1 < (countRun mark run mark).2 := by
    rw [countRun, if_pos rfl]
    exact Nat.lt_of_lt_of_le (Nat.lt_succ_self run.1) (Nat.le_max_right _ _)
  exact Nat.lt_of_lt_of_le longer counted

theorem literalLine_of_plain (plain : ∀ char ∈ text, needsEscape char = false)
    (noLineFeed : '\n' ∉ text) {longest : Nat}
    (noApostrophe : (text.foldl (countRun '\x27') (0, longest)).2 = 0) (rest : List Char) :
    literalLine (text ++ '\x27' :: rest) = some (text, rest) := by
  induction text with
  | nil => simp [literalLine]
  | cons char text ih =>
      have apart : char ≠ '\x27' := by
        rintro rfl
        have counted := lt_foldl_countRun '\x27' text (0, longest)
        omega
      rw [List.foldl_cons, countRun, if_neg apart] at noApostrophe
      rw [List.mem_cons, not_or] at noLineFeed
      have read := ih (fun other listed => plain other (by simp [listed])) noLineFeed.2 noApostrophe
      have isText : isTextChar char = true :=
        isTextChar_of_not_needsEscape (plain char (by simp)) (Ne.symm noLineFeed.1)
      simp [literalLine, isText, read, push]

/-- Up to two apostrophes before anything else belong to the string. -/
theorem literalLines_replicate (few : pending ≤ 2) (noApostrophe : char ≠ '\x27')
    (plain : needsEscape char = false) (rest : List Char) :
    literalLines (List.replicate pending '\x27' ++ char :: rest) =
      (literalLines rest).map fun read =>
        (List.replicate pending '\x27' ++ char :: read.1, read.2) := by
  have noReturn : char ≠ '\r' := by
    rintro rfl
    cases plain
  have stays : isTextChar char = true ∨ char = '\n' := by
    by_cases lineFeed : char = '\n'
    · exact .inr lineFeed
    · exact .inl (isTextChar_of_not_needsEscape plain lineFeed)
  have apostrophe : isTextChar '\x27' = true := rfl
  match pending, few with
  | 0, _ => simp [literalLines, noApostrophe, noReturn, stays, push]
  | 1, _ => simp [literalLines, noApostrophe, noReturn, stays, push, apostrophe, Function.comp_def]
  | 2, _ =>
      simp [List.replicate, literalLines, noApostrophe, noReturn, stays, push, apostrophe,
        Function.comp_def]

/-- Up to two apostrophes before the closing ones belong to the string. -/
theorem literalLines_closing (few : pending ≤ 2) (follow : rest.head? ≠ some '\x27') :
    literalLines (List.replicate pending '\x27' ++ (List.replicate 3 '\x27' ++ rest)) =
      some (List.replicate pending '\x27', rest) := by
  have apart := ne_cons_of_head? follow
  match pending, few with
  | 0, _ => simp [List.replicate, literalLines, apart]
  | 1, _ => simp [List.replicate, literalLines]
  | 2, _ => simp [List.replicate, literalLines]

theorem literalLines_of_plain (follow : rest.head? ≠ some '\x27')
    (plain : ∀ char ∈ text, needsEscape char = false) (few : pending ≤ 2) {longest : Nat}
    (short : (text.foldl (countRun '\x27') (pending, longest)).2 ≤ 2) :
    literalLines (List.replicate pending '\x27' ++ (text ++ (List.replicate 3 '\x27' ++ rest))) =
      some (List.replicate pending '\x27' ++ text, rest) := by
  induction text generalizing pending longest with
  | nil => simpa using literalLines_closing few follow
  | cons char text ih =>
      have others (other : Char) (listed : other ∈ text) : needsEscape other = false :=
        plain other (by simp [listed])
      by_cases apostrophe : char = '\x27'
      · subst apostrophe
        have fewer : pending + 1 ≤ 2 :=
          Nat.le_trans (lt_foldl_countRun '\x27' text (pending, longest)) short
        rw [List.foldl_cons, countRun, if_pos rfl] at short
        have longer := ih others fewer short
        rw [List.replicate_succ', List.append_assoc, List.append_assoc] at longer
        exact longer
      · rw [List.foldl_cons, countRun, if_neg apostrophe] at short
        have read := ih others (Nat.zero_le 2) short
        simp only [List.replicate_zero, List.nil_append] at read
        rw [List.cons_append, literalLines_replicate few apostrophe (plain char (by simp)), read]
        rfl

/-! ## The form of a string -/

/-! Between apostrophes a string stands as it is, so it has none there that would end it. -/

theorem TextForm.of_eq_literalLine (form : TextForm.of text = .literalLine) :
    text ≠ [] ∧ (∀ char ∈ text, needsEscape char = false) ∧ '\n' ∉ text ∧
      longestRun '\x27' text = 0 := by
  refine ⟨?_, ?_⟩
  · rintro rfl
    cases form
  · simp only [of] at form
    grind

theorem TextForm.of_eq_literalLines (form : TextForm.of text = .literalLines) :
    (∀ char ∈ text, needsEscape char = false) ∧ longestRun '\x27' text ≤ 2 := by
  simp only [of] at form
  grind

theorem lineBreak?_of_head {next : Char} (noReturn : next ≠ '\r') (noLineFeed : next ≠ '\n')
    (rest : List Char) : lineBreak? (next :: rest) = none := by
  simp [lineBreak?, noReturn, noLineFeed]

/-- The line end after the opening marks is the one that was written there. -/
theorem afterOpening_openingBreak {body : List Char}
    (start : '\n' ∉ text → lineBreak? body = none) :
    afterOpening (openingBreak text ++ body) = body := by
  rw [openingBreak]
  split
  next => rfl
  next oneLine =>
    rw [List.nil_append, afterOpening, start (by simpa using oneLine)]
    rfl

/-! ## Whole strings -/

/-- What stands for a text begins with a quote only on several lines, and with a line end only when
the text has one. -/
theorem escapeText_head? {next : Char}
    (first : (escapeText severalLines 0 text).head? = some next) :
    (next = '\x22' → severalLines = true) ∧ next ≠ '\r' ∧ (next = '\n' → '\n' ∈ text) := by
  cases text with
  | nil => cases first
  | cons char text =>
      rw [escapeText] at first
      split at first
      next quote =>
        cases severalLines with
        | false =>
            obtain rfl : '\\' = next := by simpa using first
            exact ⟨fun same => absurd same (by decide), by decide,
              fun same => absurd same (by decide)⟩
        | true =>
            obtain rfl : '\x22' = next := by simpa using first
            exact ⟨fun _ => rfl, by decide, fun same => absurd same (by decide)⟩
      next noQuote =>
        obtain ⟨head, more, written, apart, noReturn, lineFeed⟩ :=
          (escaped_escapeChar severalLines noQuote).exists_cons
        rw [written] at first
        cases first
        exact ⟨fun same => absurd same apart, noReturn, fun same => by simp [lineFeed same]⟩

theorem text?_quotedLine (text : List Char) (follow : rest.head? ≠ some '\x22') :
    text? ('\x22' :: (escapeText false 0 text ++ '\x22' :: rest)) =
      some (String.ofList text, rest) := by
  have single (more : List Char) :
      escapeText false 0 text ++ '\x22' :: rest ≠ '\x22' :: '\x22' :: more := by
    intro same
    cases written : escapeText false 0 text with
    | nil =>
        rw [written] at same
        cases same
        exact follow rfl
    | cons next tail =>
        rw [written] at same
        cases (escapeText_head? (congrArg List.head? written)).1 (List.cons.inj same).1
  rw [text?, lineText?, quotedLine_escapeText, Option.map_some]
  · exact fun more same => single more (List.cons.inj same).2
  · exact nofun

theorem text?_literalLine (form : TextForm.of text = .literalLine) (rest : List Char) :
    text? ('\x27' :: (text ++ '\x27' :: rest)) = some (String.ofList text, rest) := by
  obtain ⟨nonempty, plain, noLineFeed, noApostrophe⟩ := TextForm.of_eq_literalLine form
  have single (more : List Char) : text ++ '\x27' :: rest ≠ '\x27' :: '\x27' :: more := by
    intro same
    cases text with
    | nil => exact nonempty rfl
    | cons char text =>
        have counted := lt_foldl_countRun char text (0, 0)
        rw [(List.cons.inj same).1] at counted noApostrophe
        exact Nat.ne_of_gt counted noApostrophe
  rw [text?, lineText?, literalLine_of_plain plain noLineFeed noApostrophe, Option.map_some]
  · exact nofun
  · exact fun more same => single more (List.cons.inj same).2

theorem text?_quotedLines (text : List Char) (follow : rest.head? ≠ some '\x22') :
    text? (List.replicate 3 '\x22' ++
        (openingBreak text ++ (escapeText true 0 text ++ (List.replicate 3 '\x22' ++ rest)))) =
      some (String.ofList text, rest) := by
  have start (oneLine : '\n' ∉ text) :
      lineBreak? (escapeText true 0 text ++ (List.replicate 3 '\x22' ++ rest)) = none := by
    cases written : escapeText true 0 text with
    | nil => rfl
    | cons next tail =>
        obtain ⟨_, noReturn, lineFeed⟩ := escapeText_head? (congrArg List.head? written)
        exact lineBreak?_of_head noReturn (fun same => oneLine (lineFeed same)) _
  have read := @quotedLines_escapeText text rest 0 follow (Nat.zero_le 2)
  simp only [List.replicate_zero, List.nil_append] at read
  simp only [List.replicate, List.cons_append, List.nil_append] at start read ⊢
  rw [text?, afterOpening_openingBreak start, read, Option.map_some]

theorem text?_literalLines (form : TextForm.of text = .literalLines)
    (follow : rest.head? ≠ some '\x27') :
    text? (List.replicate 3 '\x27' ++
        (openingBreak text ++ (text ++ (List.replicate 3 '\x27' ++ rest)))) =
      some (String.ofList text, rest) := by
  obtain ⟨plain, short⟩ := TextForm.of_eq_literalLines form
  have start (oneLine : '\n' ∉ text) :
      lineBreak? (text ++ (List.replicate 3 '\x27' ++ rest)) = none := by
    cases text with
    | nil => rfl
    | cons char text =>
        refine lineBreak?_of_head ?_ ?_ _
        · rintro rfl
          cases plain '\r' (by simp)
        · rintro rfl
          simp at oneLine
  have read := @literalLines_of_plain text rest 0 follow plain (Nat.zero_le 2) 0 short
  simp only [List.replicate_zero, List.nil_append] at read
  simp only [List.replicate, List.cons_append, List.nil_append] at start read ⊢
  rw [text?, afterOpening_openingBreak start, read, Option.map_some]

/-- A string is read as it was written, up to whatever follows it. -/
theorem text?_writeText (text : String) (noQuote : rest.head? ≠ some '\x22')
    (noApostrophe : rest.head? ≠ some '\x27') :
    text? (writeText text ++ rest) = some (text, rest) := by
  rw [writeText]
  cases form : TextForm.of text.toList with
  | quotedLine => simpa using text?_quotedLine text.toList noQuote
  | literalLine => simpa using text?_literalLine form rest
  | quotedLines => simpa using text?_quotedLines text.toList noQuote
  | literalLines => simpa using text?_literalLines form noApostrophe

end DeviceCatalog.Toml
