import DeviceCatalog.Json.Token
import Mathlib.Algebra.Group.Nat.Defs
import Mathlib.Data.List.Chain

/-!
# Spellings of tokens

A sequence of tokens has many texts: blanks may stand before each token and at the end, and a string may
be written with escapes or without. Each of these texts is read as the tokens, as long as no word stands
directly before another word, because a word has no mark of its own at its end. The scan of the bytes is
followed token by token: after each of them, ending the text would give the tokens so far.
-/

namespace DeviceCatalog.Json

/-- The bytes spell a piece of a string. -/
inductive Piece.Spells : Bytes → Piece → Prop
  /-- A byte that stands for itself. -/
  | plain {byte : UInt8} (quote : byte ≠ 34) (backslash : byte ≠ 92) (printable : ¬ byte < 0x20) :
      Spells [byte] (.byte byte)
  /-- A short escape. -/
  | escape {letter value : UInt8} (stands : Token.ofEscape? letter = some value) :
      Spells [92, letter] (.byte value)
  /-- Four hexadecimal digits, the first of which counts most. -/
  | unit {first second third fourth : UInt8} {a b c d : Nat}
      (firstValue : Token.ofHex? first = some a) (secondValue : Token.ofHex? second = some b)
      (thirdValue : Token.ofHex? third = some c) (fourthValue : Token.ofHex? fourth = some d) :
      Spells [92, 117, first, second, third, fourth] (.unit (((a * 16 + b) * 16 + c) * 16 + d))

/-- The bytes spell the pieces of a string, one after another. -/
inductive Lexeme.Spells : Bytes → Lexeme → Prop
  | nil : Spells [] []
  | cons {bytes others : Bytes} {piece : Piece} {rest : Lexeme} (first : piece.Spells bytes)
      (remaining : Spells others rest) : Spells (bytes ++ others) (piece :: rest)

namespace Token

/-- The bytes spell the token. -/
inductive Spells : Bytes → Token → Prop
  | mark {byte : UInt8} {token : Token} (stands : ofMark? byte = some token) : Spells [byte] token
  | word (letters : Bytes) : Spells letters (.word letters)
  | text {bytes : Bytes} {lexeme : Lexeme} (spells : lexeme.Spells bytes) :
      Spells (34 :: bytes ++ [34]) (.text lexeme)

/-- The text spells the tokens, with any blanks before each of them and at the end. -/
inductive SpellsAll : Bytes → List Token → Prop
  | nil {blanks : Bytes} (blank : ∀ byte ∈ blanks, isBlank byte = true) : SpellsAll blanks []
  | cons {blanks bytes text : Bytes} {token : Token} {rest : List Token}
      (blank : ∀ byte ∈ blanks, isBlank byte = true) (spells : Spells bytes token)
      (others : SpellsAll text rest) : SpellsAll (blanks ++ bytes ++ text) (token :: rest)

/-- Whether the token is a literal name or a number. -/
def isWord : Token → Bool
  | word _ => true
  | _ => false

/-- A word has letters, and no other bytes. -/
def HasLetters : Token → Prop
  | word letters => letters ≠ [] ∧ letters.all isWordByte = true
  | _ => True

/-- Of two neighbours one is not a word. -/
def Apart (left right : Token) : Prop := left.isWord = false ∨ right.isWord = false

namespace Scan

/-- Where the text could end, a byte that belongs to no word is taken as between two tokens. -/
theorem step_of_finish {scan : Scan} {tokens : List Token} (finished : scan.finish = some tokens)
    {byte : UInt8} (wordless : isWordByte byte = false) :
    scan.step byte = stepBetween tokens.reverse byte := by
  obtain ⟨before, place⟩ := scan
  cases place with
  | between =>
      cases finished
      simp [step]
  | word letters =>
      cases finished
      simp [step, wordless]
  | text pieces => cases finished
  | escape pieces => cases finished
  | hex pieces value more => cases finished

theorem isWordByte_of_isBlank {byte : UInt8} (blank : isBlank byte = true) :
    isWordByte byte = false := by
  simp only [isBlank, Bool.or_eq_true, beq_iff_eq] at blank
  rcases blank with ((rfl | rfl) | rfl) | rfl <;> rfl

/-- Blanks add no token, and after them none is open that was not open before. -/
theorem foldlM_blanks {scan : Scan} {tokens : List Token} (finished : scan.finish = some tokens)
    {blanks : Bytes} (blank : ∀ byte ∈ blanks, isBlank byte = true) :
    ∃ after, blanks.foldlM step scan = some after ∧ after.finish = some tokens ∧
      (scan.place = .between → after.place = .between) := by
  induction blanks generalizing scan with
  | nil => exact ⟨scan, rfl, finished, id⟩
  | cons byte rest ih =>
      rw [List.forall_mem_cons] at blank
      have wordless : isWordByte byte = false := isWordByte_of_isBlank blank.1
      have taken : scan.step byte = some ⟨tokens.reverse, .between⟩ := by
        rw [step_of_finish finished wordless, stepBetween, if_pos blank.1]
      have stillFinished : finish ⟨tokens.reverse, .between⟩ = some tokens := by simp [finish]
      obtain ⟨after, scanned, ended, between⟩ := ih stillFinished blank.2
      refine ⟨after, ?_, ended, fun _ => between rfl⟩
      rw [List.foldlM_cons, taken]
      exact scanned

/-- The first letter of a word is neither a blank nor a quote. -/
theorem stepBetween_word (tokens : List Token) {letter : UInt8} (clean : isWordByte letter = true) :
    stepBetween tokens letter = some ⟨tokens, .word [letter]⟩ := by
  have notBlank : isBlank letter = false := by
    by_contra blank
    rw [isWordByte_of_isBlank (Bool.not_eq_false _ ▸ blank)] at clean
    cases clean
  have notQuote : letter ≠ 34 := by
    rintro rfl
    contradiction
  simp [stepBetween, notBlank, notQuote, clean]

/-- A mark is none of the other bytes that may stand between two tokens. -/
theorem stepBetween_mark (tokens : List Token) {byte : UInt8} {mark : Token}
    (stands : ofMark? byte = some mark) :
    isWordByte byte = false ∧ stepBetween tokens byte = some ⟨mark :: tokens, .between⟩ := by
  simp only [ofMark?] at stands
  split_ifs at stands with openBrace closeBrace openBracket closeBracket colon comma
  all_goals
    cases stands
    subst byte
    exact ⟨rfl, rfl⟩

/-- The letters of a word are gathered. -/
theorem foldlM_word (tokens : List Token) (letters before : Bytes)
    (clean : letters.all isWordByte = true) :
    letters.foldlM step ⟨tokens, .word before⟩ =
      some ⟨tokens, .word (letters.reverse ++ before)⟩ := by
  induction letters generalizing before with
  | nil => rfl
  | cons letter rest ih =>
      simp only [List.all_cons, Bool.and_eq_true] at clean
      simp only [List.foldlM_cons, step, clean.1, if_true]
      exact (ih (letter :: before) clean.2).trans (by simp)

/-- Inside a string, a spelling of a piece is read as the piece. -/
theorem foldlM_piece (tokens : List Token) (before : Lexeme) {bytes : Bytes} {piece : Piece}
    (spells : piece.Spells bytes) :
    bytes.foldlM step ⟨tokens, .text before⟩ = some ⟨tokens, .text (piece :: before)⟩ := by
  cases spells with
  | plain quote backslash printable => simp [step, quote, backslash, printable]
  | @escape letter value stands =>
      have short : letter ≠ 117 := by
        rintro rfl
        cases stands
      simp [step, short, stands]
  | unit first second third fourth => simp [step, first, second, third, fourth]

theorem foldlM_lexeme (tokens : List Token) {bytes : Bytes} {lexeme : Lexeme}
    (spells : lexeme.Spells bytes) (before : Lexeme) :
    bytes.foldlM step ⟨tokens, .text before⟩ =
      some ⟨tokens, .text (lexeme.reverse ++ before)⟩ := by
  induction spells generalizing before with
  | nil => rfl
  | cons first _ ih =>
      rw [List.foldlM_append, foldlM_piece tokens before first]
      exact (ih _).trans (by simp)

/-- A spelling of a token is read as the token. A word can only begin between two tokens, and only a
word is still open after its last byte. -/
theorem foldlM_token {scan : Scan} {tokens : List Token} (finished : scan.finish = some tokens)
    {bytes : Bytes} {token : Token} (spells : token.Spells bytes) (letters : token.HasLetters)
    (apart : token.isWord = true → scan.place = .between) :
    ∃ after, bytes.foldlM step scan = some after ∧ after.finish = some (tokens ++ [token]) ∧
      (token.isWord = false → after.place = .between) := by
  cases spells with
  | @mark byte _ stands =>
      refine ⟨⟨token :: tokens.reverse, .between⟩, ?_, by simp [finish], fun _ => rfl⟩
      obtain ⟨wordless, taken⟩ := stepBetween_mark tokens.reverse stands
      simp [step_of_finish finished wordless, taken]
  | word =>
      obtain ⟨before, place⟩ := scan
      obtain rfl : place = .between := apart rfl
      cases finished
      cases bytes with
      | nil => exact absurd rfl letters.1
      | cons first rest =>
          have clean := letters.2
          simp only [List.all_cons, Bool.and_eq_true] at clean
          refine ⟨⟨before, .word (first :: rest).reverse⟩, ?_, by simp [finish], nofun⟩
          rw [List.foldlM_cons, step, stepBetween_word _ clean.1]
          exact (foldlM_word before rest [first] clean.2).trans (by simp)
  | @text bytes lexeme spells =>
      refine ⟨⟨.text lexeme :: tokens.reverse, .between⟩, ?_, by simp [finish], fun _ => rfl⟩
      rw [List.cons_append, List.foldlM_cons,
        step_of_finish finished (by decide : isWordByte 34 = false)]
      change (bytes ++ [34]).foldlM step ⟨tokens.reverse, .text []⟩ = _
      rw [List.foldlM_append, foldlM_lexeme _ spells]
      simp [step]

/-- A spelling of tokens is read as these tokens when no two words stand side by side. -/
theorem foldlM_tokens {text : Bytes} {rest : List Token} (spells : SpellsAll text rest)
    (letters : ∀ token ∈ rest, token.HasLetters) (apart : rest.IsChain Apart) {scan : Scan}
    {tokens : List Token} (finished : scan.finish = some tokens)
    (ready : ∀ token ∈ rest.head?, token.isWord = true → scan.place = .between) :
    ∃ after, text.foldlM step scan = some after ∧ after.finish = some (tokens ++ rest) := by
  induction spells generalizing scan tokens with
  | nil blank =>
      obtain ⟨after, scanned, ended, _⟩ := foldlM_blanks finished blank
      exact ⟨after, scanned, by simpa using ended⟩
  | @cons blanks bytes text token rest blank spells _ ih =>
      obtain ⟨before, scannedBlanks, stillFinished, between⟩ := foldlM_blanks finished blank
      obtain ⟨middle, scannedToken, ended, closed⟩ := foldlM_token stillFinished spells
        (letters token (by simp)) fun word => between (ready token (by simp) word)
      have nextReady : ∀ next ∈ rest.head?, next.isWord = true → middle.place = .between := by
        intro next first word
        rcases List.IsChain.rel_head? apart first with wordless | wordless
        · exact closed wordless
        · simp [word] at wordless
      obtain ⟨after, scannedRest, endedRest⟩ :=
        ih (fun next member => letters next (by simp [member])) apart.tail ended nextReady
      refine ⟨after, ?_, by simpa using endedRest⟩
      simp only [List.foldlM_append, scannedBlanks, Option.bind_eq_bind, Option.bind_some,
        scannedToken]
      exact scannedRest

end Scan

/-- Every text of the tokens, no two words of which stand side by side, is read as these tokens. -/
theorem read?_of_spellsAll {text : Bytes} {tokens : List Token} (spells : SpellsAll text tokens)
    (letters : ∀ token ∈ tokens, token.HasLetters) (apart : tokens.IsChain Apart) :
    read? text = some tokens := by
  have started : Scan.start.finish = some [] := rfl
  obtain ⟨after, scanned, finished⟩ :=
    Scan.foldlM_tokens spells letters apart started fun _ _ _ => rfl
  rw [read?, scanned]
  exact finished

end Token

end DeviceCatalog.Json
