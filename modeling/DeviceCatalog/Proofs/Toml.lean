import DeviceCatalog.Toml
import DeviceCatalog.Proofs.Toml.Text

/-!
# Lines are read as they were written

A document that consists of keys without quotes, headers of such keys and texts as they are written is
read line by line. What a line adds to the tree is left to the tree.
-/

namespace DeviceCatalog.Toml

variable {name : String} {rest : List Char}

/-! ## Keys -/

/-- A name that stands in a key without quotes. -/
def IsBare (name : String) : Prop :=
  name.toList ≠ [] ∧ name.toList.all isKeyChar = true

instance : Decidable (IsBare name) := inferInstanceAs (Decidable (_ ∧ _))

theorem IsBare.plain (bare : IsBare name) : ∀ char ∈ name.toList, isKeyChar char = true :=
  List.all_eq_true.1 bare.2

theorem IsBare.exists_cons (bare : IsBare name) :
    ∃ first others, name.toList = first :: others ∧ isKeyChar first = true := by
  cases chars : name.toList with
  | nil => exact absurd chars bare.1
  | cons first others => exact ⟨first, others, rfl, bare.plain first (by simp [chars])⟩

theorem ne_of_isKeyChar {char : Char} (plain : isKeyChar char = true) (mark : Char)
    (other : isKeyChar mark = false) : char ≠ mark := by
  rintro rfl
  rw [plain] at other
  cases other

theorem skipBlanks_of_head {first : Char} (noBlank : isBlank first = false) (rest : List Char) :
    skipBlanks (first :: rest) = first :: rest := by
  rw [skipBlanks, List.dropWhile_cons_of_neg (by simp [noBlank])]

theorem isBlank_of_isKeyChar {char : Char} (plain : isKeyChar char = true) :
    isBlank char = false := by
  simp [isBlank, ne_of_isKeyChar plain ' ' rfl, ne_of_isKeyChar plain '\t' rfl]

/-- No blanks stand before a bare name. -/
theorem IsBare.skipBlanks (bare : IsBare name) (rest : List Char) :
    skipBlanks (name.toList ++ rest) = name.toList ++ rest := by
  obtain ⟨first, others, chars, plain⟩ := bare.exists_cons
  rw [chars, List.cons_append, skipBlanks_of_head (isBlank_of_isKeyChar plain)]

theorem keyPart?_bare (bare : IsBare name) {mark : Char} (ends : isKeyChar mark = false)
    (rest : List Char) :
    keyPart? (name.toList ++ mark :: rest) = some (name, mark :: rest) := by
  have taken : (name.toList ++ mark :: rest).takeWhile isKeyChar = name.toList := by
    rw [List.takeWhile_append_of_pos bare.plain, List.takeWhile_cons_of_neg (by simp [ends]),
      List.append_nil]
  have left : (name.toList ++ mark :: rest).dropWhile isKeyChar = mark :: rest := by
    rw [List.dropWhile_append_of_pos bare.plain, List.dropWhile_cons_of_neg (by simp [ends])]
  obtain ⟨first, others, chars, plain⟩ := bare.exists_cons
  have apart (other : Char) (foreign : isKeyChar other = false) (more : List Char) :
      name.toList ++ mark :: rest ≠ other :: more := by
    intro same
    rw [chars] at same
    exact ne_of_isKeyChar plain other foreign (List.cons.inj same).1
  rw [keyPart?, taken, left, if_neg (by simpa using bare.1), String.ofList_toList]
  · exact apart '\x22' rfl
  · exact apart '\x27' rfl

/-- A bare name is a key of one part, up to the first character after it that is no blank. -/
theorem key?_bare (bare : IsBare name) {mark next : Char} (ends : isKeyChar mark = false)
    {more : List Char} (after : Toml.skipBlanks (mark :: rest) = next :: more)
    (noPoint : next ≠ '.') :
    key? (name.toList ++ mark :: rest) = some (⟨[], name⟩, next :: more) := by
  have parts : keyParts? levels (name.toList ++ mark :: rest) = some ([name], next :: more) := by
    rw [levels, keyParts?, bare.skipBlanks, keyPart?_bare bare ends]
    simp [after, noPoint]
  rw [key?, parts]
  rfl

/-! ## Values -/

/-- A text is written with a quote or an apostrophe at its front. -/
theorem writeText_cons (text : String) :
    ∃ mark more, writeText text = mark :: more ∧ (mark = '\x22' ∨ mark = '\x27') := by
  rw [writeText]
  cases TextForm.of text.toList with
  | quotedLine => exact ⟨_, _, rfl, .inl rfl⟩
  | literalLine => exact ⟨_, _, rfl, .inr rfl⟩
  | quotedLines => exact ⟨_, _, rfl, .inl rfl⟩
  | literalLines => exact ⟨_, _, rfl, .inr rfl⟩

theorem value?_writeText (depth : Nat) (text : String) (noQuote : rest.head? ≠ some '\x22')
    (noApostrophe : rest.head? ≠ some '\x27') :
    value? depth (writeText text ++ rest) = some (.string text, rest) := by
  have read := text?_writeText text noQuote noApostrophe
  obtain ⟨mark, more, written, kind⟩ := writeText_cons text
  rw [written, List.cons_append] at read ⊢
  rcases kind with rfl | rfl
  · rw [value?, read, Option.map_some]
  · rw [value?, read, Option.map_some]

/-! ## Lines -/

theorem keyValue?_writeText (bare : IsBare name) (depth : Nat) (text : String)
    (noQuote : rest.head? ≠ some '\x22') (noApostrophe : rest.head? ≠ some '\x27') :
    keyValue? (value? depth) (name.toList ++ ' ' :: '=' :: ' ' :: (writeText text ++ rest)) =
      some ((⟨[], name⟩, .string text), rest) := by
  have key := @key?_bare name ('=' :: ' ' :: (writeText text ++ rest)) bare ' ' '=' rfl _ rfl
    (by decide)
  have start : skipBlanks (' ' :: (writeText text ++ rest)) = writeText text ++ rest := by
    obtain ⟨mark, more, written, kind⟩ := writeText_cons text
    rw [written]
    rcases kind with rfl | rfl <;> rfl
  have value := value?_writeText depth text noQuote noApostrophe
  rw [keyValue?, key]
  simp [expect?, start, value]

namespace Draft

variable {draft : Draft} {fuel : Nat}

theorem definition?_writeText (bare : IsBare name) (text : String) (rest : List Char) :
    draft.definition? (name.toList ++ ' ' :: '=' :: ' ' :: (writeText text ++ '\n' :: rest)) =
      (draft.root.defineIn? draft.opened [] name (.string text)).map fun root =>
        ({ draft with root := root }, rest) := by
  have read := @keyValue?_writeText name ('\n' :: rest) bare levels text (by simp) (by simp)
  have ended : lineEnd? ('\n' :: rest) = some rest := rfl
  rw [definition?, read]
  simp only [Option.bind_eq_bind, Option.bind_some, ended]
  cases draft.root.defineIn? draft.opened [] name (.string text) <;> rfl

theorem tableHeader?_bare (bare : IsBare name) (rest : List Char) :
    draft.tableHeader? (name.toList ++ ']' :: '\n' :: rest) =
      (draft.root.openTable? [] name).map fun root => (⟨root, [name]⟩, rest) := by
  have key := @key?_bare name ('\n' :: rest) bare ']' ']' rfl _ rfl (by decide)
  have ended : lineEnd? ('\n' :: rest) = some rest := rfl
  rw [tableHeader?, key]
  simp only [Option.bind_eq_bind, Option.bind_some, expect?, if_true, ended]
  cases draft.root.openTable? [] name <;> rfl

/-- A line that is not empty and has no blanks before it is read with one unit of fuel. -/
theorem lines?_of_line {first : Char} (noBlank : isBlank first = false) (rest : List Char) :
    lines? (fuel + 1) draft (first :: rest) =
      (draft.line? (first :: rest)).bind fun read => lines? fuel read.1 read.2 := by
  rw [lines?, skipBlanks_of_head noBlank]
  rfl

/-- More fuel does not change what is read. -/
theorem lines?_mono {input : List Char} {read : Draft} (lines : lines? fuel draft input = some read)
    {more : Nat} (enough : fuel ≤ more) : lines? more draft input = some read := by
  induction fuel generalizing draft input more with
  | zero =>
      rw [lines?] at lines ⊢
      cases start : skipBlanks input with
      | nil =>
          rw [start] at lines
          exact lines
      | cons first rest =>
          rw [start] at lines
          cases lines
  | succ fuel ih =>
      obtain ⟨more, rfl⟩ := Nat.exists_eq_add_of_le' (Nat.le_trans (Nat.le_add_left 1 fuel) enough)
      rw [lines?] at lines ⊢
      cases start : skipBlanks input with
      | nil =>
          rw [start] at lines
          exact lines
      | cons first rest =>
          rw [start] at lines
          simp only [Option.bind_eq_bind, Option.bind_eq_some_iff] at lines ⊢
          obtain ⟨⟨next, left⟩, line, others⟩ := lines
          exact ⟨_, line, ih others (Nat.le_of_succ_le_succ enough)⟩

theorem lines?_writeText (bare : IsBare name) (text : String) (rest : List Char) :
    lines? (fuel + 1) draft (name.toList ++ ' ' :: '=' :: ' ' :: (writeText text ++ '\n' :: rest)) =
      (draft.root.defineIn? draft.opened [] name (.string text)).bind fun root =>
        lines? fuel { draft with root := root } rest := by
  have read := @definition?_writeText name draft bare text rest
  obtain ⟨first, others, chars, plain⟩ := bare.exists_cons
  rw [chars, List.cons_append] at read ⊢
  rw [lines?_of_line (isBlank_of_isKeyChar plain), line?, read]
  · cases draft.root.defineIn? draft.opened [] name (.string text) <;> rfl
  -- The name does not begin as a line of another kind does.
  · exact fun more same => ne_of_isKeyChar plain '#' rfl (List.cons.inj same).1
  · exact fun more same => ne_of_isKeyChar plain '[' rfl (List.cons.inj same).1
  · exact fun more same => ne_of_isKeyChar plain '[' rfl (List.cons.inj same).1
  · exact fun more same => ne_of_isKeyChar plain '\n' rfl (List.cons.inj same).1
  · exact fun more same => ne_of_isKeyChar plain '\r' rfl (List.cons.inj same).1

theorem lines?_header (bare : IsBare name) (rest : List Char) :
    lines? (fuel + 1) draft ('[' :: (name.toList ++ ']' :: '\n' :: rest)) =
      (draft.root.openTable? [] name).bind fun root => lines? fuel ⟨root, [name]⟩ rest := by
  have read := @tableHeader?_bare name draft bare rest
  obtain ⟨first, others, chars, plain⟩ := bare.exists_cons
  rw [lines?_of_line rfl, line?, read]
  · cases draft.root.openTable? [] name <;> rfl
  -- One bracket opens the header of a table, as no name begins with another.
  · intro more same
    rw [chars] at same
    exact ne_of_isKeyChar plain '[' rfl (List.cons.inj same).1

theorem lines?_empty (rest : List Char) :
    lines? (fuel + 1) draft ('\n' :: rest) = lines? fuel draft rest :=
  lines?_of_line rfl rest

end Draft

end DeviceCatalog.Toml
