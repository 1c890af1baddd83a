import DeviceCatalog.Json
import DeviceCatalog.Proofs.Json.Number
import DeviceCatalog.Proofs.Json.Token

/-!
# Reading back values

A value whose numbers are numbers is read from each of its texts, with any blanks and any escapes. The
tokens of a text are found again because words in it always have a mark between them, and the automaton
that assembles them meets each value with the frames around it untouched. What is written for a value is
one of its texts, if its strings are written as a writer writes them.
-/

namespace DeviceCatalog.Json

/-- Values whose numbers have the form of numbers. -/
inductive IsProper : Json → Prop where
  | null : IsProper .null
  | bool (value : Bool) : IsProper (.bool value)
  | number {lexeme : Bytes} (number : Number.IsNumber lexeme) : IsProper (.number lexeme)
  | text (lexeme : Lexeme) : IsProper (.text lexeme)
  | array {elements : List Json} (proper : ∀ element ∈ elements, IsProper element) :
      IsProper (.array elements)
  | object {members : List (Lexeme × Json)} (proper : ∀ member ∈ members, IsProper member.2) :
      IsProper (.object members)

/-- The text is a JSON text of the value. -/
structure Spells (text : Bytes) (value : Json) : Prop where
  proper : value.IsProper
  tokens : Token.SpellsAll text value.tokens

/-- Values whose strings are pieces of bytes and whose numbers are numbers. -/
inductive IsClean : Json → Prop where
  | null : IsClean .null
  | bool (value : Bool) : IsClean (.bool value)
  | number {lexeme : Bytes} (wellFormed : Number.isWellFormed lexeme = true)
      (letters : lexeme.all Token.isWordByte = true) : IsClean (.number lexeme)
  | text {lexeme : Lexeme} (written : lexeme.IsWritten) : IsClean (.text lexeme)
  | array {elements : List Json} (clean : ∀ element ∈ elements, IsClean element) :
      IsClean (.array elements)
  | object {members : List (Lexeme × Json)} (written : ∀ member ∈ members, member.1.IsWritten)
      (clean : ∀ member ∈ members, IsClean member.2) : IsClean (.object members)

theorem IsClean.isProper {value : Json} (clean : value.IsClean) : value.IsProper := by
  induction clean with
  | null => exact .null
  | bool value => exact .bool value
  | number wellFormed _ => exact .number (Number.isWellFormed_iff.1 wellFormed)
  | text _ => exact .text _
  | array _ ih => exact .array ih
  | object _ _ ih => exact .object ih

/-! ## Tokens of a value -/

/-- The tokens have a property, and of any two neighbours one is not a word. -/
structure Spaced (holds : Token → Prop) (tokens : List Token) : Prop where
  each : ∀ token ∈ tokens, holds token
  apart : tokens.IsChain Token.Apart

namespace Spaced

variable {holds : Token → Prop}

theorem nil : Spaced holds [] := ⟨nofun, .nil⟩

theorem singleton {token : Token} (held : holds token) : Spaced holds [token] :=
  ⟨by simpa using held, .singleton token⟩

/-- A token that is no word may stand between any others. -/
theorem join {left right : List Token} {mark : Token} (first : Spaced holds left)
    (second : Spaced holds right) (held : holds mark) (wordless : mark.isWord = false) :
    Spaced holds (left ++ mark :: right) where
  each := List.forall_mem_append.2 ⟨first.each, List.forall_mem_cons.2 ⟨held, second.each⟩⟩
  apart := by
    refine first.apart.append (second.apart.cons ?_) ?_
    · intro next _
      exact .inl wordless
    · intro last _ next same
      cases same
      exact .inr wordless

theorem enclose {first last : Token} {inside : List Token} (spaced : Spaced holds inside)
    (opening : holds first ∧ first.isWord = false) (closing : holds last ∧ last.isWord = false) :
    Spaced holds (first :: inside ++ [last]) :=
  nil.join (spaced.join nil closing.1 closing.2) opening.1 opening.2

theorem elements (comma : holds .comma) {elements : List Json}
    (each : ∀ element ∈ elements, Spaced holds element.tokens) :
    Spaced holds (elementTokens elements) := by
  induction elements with
  | nil => exact nil
  | cons element rest ih =>
      rw [List.forall_mem_cons] at each
      cases rest with
      | nil => exact each.1
      | cons next others => exact each.1.join (ih each.2) comma rfl

theorem members (comma : holds .comma) (colon : holds .colon) {members : List (Lexeme × Json)}
    (keys : ∀ member ∈ members, holds (.text member.1))
    (each : ∀ member ∈ members, Spaced holds member.2.tokens) :
    Spaced holds (memberTokens members) := by
  induction members with
  | nil => exact nil
  | cons member rest ih =>
      obtain ⟨key, value⟩ := member
      rw [List.forall_mem_cons] at keys each
      have first : Spaced holds (.text key :: .colon :: value.tokens) :=
        (singleton keys.1).join each.1 colon rfl
      cases rest with
      | nil => exact first
      | cons next others => exact first.join (ih keys.2 each.2) comma rfl

end Spaced

theorem hasLetters_literals :
    (Token.word (Bytes.ofText "null")).HasLetters ∧ (Token.word (Bytes.ofText "true")).HasLetters ∧
      (Token.word (Bytes.ofText "false")).HasLetters := by
  simp only [Token.HasLetters]
  decide +kernel

/-- A literal is one word with letters. -/
theorem Spaced.literals {holds : Token → Prop}
    (words : ∀ {word}, (Token.word word).HasLetters → holds (.word word)) :
    Spaced holds Json.null.tokens ∧ ∀ value, Spaced holds (Json.bool value).tokens := by
  obtain ⟨null, truth, falsity⟩ := hasLetters_literals
  refine ⟨.singleton (words null), fun value => ?_⟩
  cases value with
  | false => exact .singleton (words falsity)
  | true => exact .singleton (words truth)

theorem IsProper.spaced {value : Json} (proper : value.IsProper) :
    Spaced Token.HasLetters value.tokens := by
  obtain ⟨null, bools⟩ := @Spaced.literals Token.HasLetters id
  induction proper with
  | null => exact null
  | bool value => exact bools value
  | number number => exact .singleton ⟨number.ne_nil, number.all_isWordByte⟩
  | text lexeme => exact .singleton trivial
  | array _ ih => exact (Spaced.elements trivial ih).enclose ⟨trivial, rfl⟩ ⟨trivial, rfl⟩
  | object _ ih =>
      exact (Spaced.members trivial trivial (fun _ _ => trivial) ih).enclose ⟨trivial, rfl⟩
        ⟨trivial, rfl⟩

theorem IsClean.spaced {value : Json} (clean : value.IsClean) :
    Spaced Token.IsClean value.tokens := by
  obtain ⟨null, bools⟩ := @Spaced.literals Token.IsClean id
  induction clean with
  | null => exact null
  | bool value => exact bools value
  | number wellFormed letters =>
      exact .singleton ⟨(Number.isWellFormed_iff.1 wellFormed).ne_nil, letters⟩
  | text written => exact .singleton written
  | array _ ih => exact (Spaced.elements trivial ih).enclose ⟨trivial, rfl⟩ ⟨trivial, rfl⟩
  | object written _ ih =>
      exact (Spaced.members trivial trivial written ih).enclose ⟨trivial, rfl⟩ ⟨trivial, rfl⟩

/-! ## Assembling the tokens of a value -/

/-- The tokens of a value lead past the value, whatever surrounds it. -/
def Assembles (value : Json) : Prop :=
  ∀ frames, value.tokens.foldlM Assembly.step (.value frames) = some (.complete frames value)

/-- A value begins with a token that no array ends with. -/
theorem exists_tokens_eq_cons (value : Json) :
    ∃ first rest, value.tokens = first :: rest ∧ first ≠ .closeBracket := by
  cases value with
  | null => exact ⟨_, _, rfl, nofun⟩
  | bool value => cases value <;> exact ⟨_, _, rfl, nofun⟩
  | number lexeme => exact ⟨_, _, rfl, nofun⟩
  | text lexeme => exact ⟨_, _, rfl, nofun⟩
  | array elements => exact ⟨_, _, rfl, nofun⟩
  | object members => exact ⟨_, _, rfl, nofun⟩

theorem exists_elementTokens_eq_cons (element : Json) (rest : List Json) :
    ∃ first others, elementTokens (element :: rest) = first :: others ∧ first ≠ .closeBracket := by
  obtain ⟨first, others, same, opening⟩ := exists_tokens_eq_cons element
  cases rest with
  | nil => exact ⟨first, others, same, opening⟩
  | cons next more =>
      rw [elementTokens, same]
      exact ⟨first, _, rfl, opening⟩

theorem exists_memberTokens_eq_cons (member : Lexeme × Json) (rest : List (Lexeme × Json)) :
    ∃ key others, memberTokens (member :: rest) = .text key :: others := by
  obtain ⟨key, value⟩ := member
  cases rest with
  | nil => exact ⟨key, _, rfl⟩
  | cons next more => exact ⟨key, _, rfl⟩

/-- The first element of an array is read like any other element. -/
theorem Assembly.step_firstElement (frames : List Frame) {token : Token}
    (opening : token ≠ .closeBracket) :
    step (.firstElement frames) token = step (.value (.array [] :: frames)) token := by
  cases token with
  | closeBracket => exact absurd rfl opening
  | _ => rfl

theorem foldlM_elementTokens {elements : List Json}
    (assembles : ∀ element ∈ elements, element.Assembles) (nonempty : elements ≠ [])
    (frames : List Frame) (done : List Json) :
    (elementTokens elements ++ [Token.closeBracket]).foldlM Assembly.step
        (.value (.array done :: frames)) =
      some (.complete frames (.array (done.reverse ++ elements))) := by
  induction elements generalizing done with
  | nil => exact absurd rfl nonempty
  | cons element rest ih =>
      have first := assembles element (by simp) (.array done :: frames)
      cases rest with
      | nil =>
          rw [elementTokens, List.foldlM_append, first]
          simp [Assembly.step]
      | cons next others =>
          have remaining := ih (fun other member => assembles other (by simp [member])) (by simp)
            (element :: done)
          rw [elementTokens, List.append_assoc, List.foldlM_append, first]
          exact remaining.trans (by simp)

theorem foldlM_memberTokens {members : List (Lexeme × Json)}
    (assembles : ∀ member ∈ members, member.2.Assembles) (nonempty : members ≠ [])
    (frames : List Frame) (done : List (Lexeme × Json)) :
    (memberTokens members ++ [Token.closeBrace]).foldlM Assembly.step (.nextKey frames done) =
      some (.complete frames (.object (done.reverse ++ members))) := by
  induction members generalizing done with
  | nil => exact absurd rfl nonempty
  | cons member rest ih =>
      obtain ⟨key, value⟩ := member
      have first := assembles (key, value) (by simp) (.object done key :: frames)
      cases rest with
      | nil =>
          change (value.tokens ++ [Token.closeBrace]).foldlM Assembly.step
            (.value (.object done key :: frames)) = _
          rw [List.foldlM_append, first]
          simp [Assembly.step]
      | cons next others =>
          have remaining := ih (fun other member => assembles other (by simp [member])) (by simp)
            ((key, value) :: done)
          rw [memberTokens, List.append_assoc]
          change (value.tokens ++ _).foldlM Assembly.step
            (.value (.object done key :: frames)) = _
          rw [List.foldlM_append, first]
          exact remaining.trans (by simp)

/-- A lexeme that is a number is none of the literal names. -/
theorem ofWord?_of_isWellFormed {lexeme : Bytes}
    (wellFormed : Number.isWellFormed lexeme = true) : ofWord? lexeme = some (.number lexeme) := by
  have notNull : lexeme ≠ Bytes.ofText "null" := by
    rintro rfl
    revert wellFormed
    decide +kernel
  have notTrue : lexeme ≠ Bytes.ofText "true" := by
    rintro rfl
    revert wellFormed
    decide +kernel
  have notFalse : lexeme ≠ Bytes.ofText "false" := by
    rintro rfl
    revert wellFormed
    decide +kernel
  simp [ofWord?, notNull, notTrue, notFalse, wellFormed]

theorem IsProper.assembles {value : Json} (proper : value.IsProper) : value.Assembles := by
  induction proper with
  | null =>
      intro frames
      rfl
  | bool value =>
      intro frames
      cases value <;> rfl
  | number number =>
      intro frames
      simp [tokens, Assembly.step, Assembly.stepValue, ofWord?_of_isWellFormed number.isWellFormed]
  | text lexeme =>
      intro frames
      rfl
  | @array elements _ ih =>
      intro frames
      cases elements with
      | nil => rfl
      | cons element rest =>
          have inside := foldlM_elementTokens ih (by simp) frames []
          obtain ⟨first, others, same, opening⟩ := exists_elementTokens_eq_cons element rest
          rw [same, List.cons_append, List.foldlM_cons] at inside
          rw [tokens, same, List.cons_append, List.cons_append, List.foldlM_cons]
          change (List.cons first _).foldlM Assembly.step (.firstElement frames) = _
          rw [List.foldlM_cons, Assembly.step_firstElement frames opening]
          exact inside
  | @object members _ ih =>
      intro frames
      cases members with
      | nil => rfl
      | cons member rest =>
          have inside := foldlM_memberTokens ih (by simp) frames []
          obtain ⟨key, others, same⟩ := exists_memberTokens_eq_cons member rest
          rw [same, List.cons_append, List.foldlM_cons] at inside
          rw [tokens, same, List.cons_append, List.cons_append, List.foldlM_cons]
          change (List.cons (Token.text key) _).foldlM Assembly.step (.firstKey frames) = _
          rw [List.foldlM_cons]
          exact inside

/-- A value is read from each of its texts. -/
theorem read?_of_spells {text : Bytes} {value : Json} (spells : value.Spells text) :
    read? text = some value := by
  have spaced := spells.proper.spaced
  rw [read?, Token.read?_of_spellsAll spells.tokens spaced.each spaced.apart, Option.bind_eq_bind,
    Option.bind_some, ofTokens?, spells.proper.assembles []]
  rfl

/-- What is written for a clean value is a text of it. -/
theorem IsClean.spells_write {value : Json} (clean : value.IsClean) : value.Spells value.write :=
  ⟨clean.isProper, Token.spellsAll_write clean.spaced.each⟩

/-- A clean value is read back from its text. -/
theorem read?_write {value : Json} (clean : value.IsClean) : read? value.write = some value :=
  read?_of_spells clean.spells_write

end DeviceCatalog.Json
