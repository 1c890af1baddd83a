import DeviceCatalog.Proofs.Json.Lexeme
import DeviceCatalog.Proofs.Json.Spelling

/-!
# Written tokens

What is written for tokens is one of their spellings, the one without blanks. A string is written with the
short escapes where there is one, and with hexadecimal digits for the other control characters.
-/

namespace DeviceCatalog.Json

/-- Pieces that bytes are written as. -/
def Lexeme.IsWritten (lexeme : Lexeme) : Prop :=
  ∀ piece ∈ lexeme, ∃ byte, piece = Lexeme.pieceOfByte byte

theorem Lexeme.isWritten_ofText (text : String) : (Lexeme.ofText text).IsWritten := by
  intro piece member
  obtain ⟨byte, _, rfl⟩ := List.mem_map.1 member
  exact ⟨byte, rfl⟩

namespace Token

/-- Tokens that can be written so that they are read back. -/
def IsClean : Token → Prop
  | word letters => letters ≠ [] ∧ letters.all isWordByte = true
  | text lexeme => lexeme.IsWritten
  | _ => True

theorem ofHex?_hexDigit : ∀ value < 16, ofHex? (hexDigit value) = some value := by
  decide

/-- The four digits that are written for a code unit have its value. -/
theorem spells_writeUnit {value : Nat} (small : value < 2 ^ 16) :
    (Piece.unit value).Spells (writePiece (.unit value)) := by
  have digit (number : Nat) : ofHex? (hexDigit (number % 16)) = some (number % 16) :=
    ofHex?_hexDigit _ (Nat.mod_lt number (by decide))
  have sum : ((value / 4096 % 16 * 16 + value / 256 % 16) * 16 + value / 16 % 16) * 16 +
      value % 16 = value := by
    omega
  have spells := Piece.Spells.unit (digit (value / 4096)) (digit (value / 256))
    (digit (value / 16)) (digit value)
  rwa [sum] at spells

/-- A byte that is neither a quote nor a backslash nor a control character stands for itself. -/
theorem spells_writeByte {byte : UInt8} (quote : byte ≠ 34) (backslash : byte ≠ 92)
    (printable : ¬ byte < 0x20) : (Piece.byte byte).Spells (writePiece (.byte byte)) := by
  have plain : writePiece (.byte byte) = [byte] := by
    rw [writePiece]
    all_goals
      rintro rfl
      contradiction
  exact plain ▸ .plain quote backslash printable

theorem spells_writePiece (byte : UInt8) :
    (Lexeme.pieceOfByte byte).Spells (writePiece (Lexeme.pieceOfByte byte)) := by
  rw [Lexeme.pieceOfByte]
  split
  next control => exact spells_writeUnit (by have := byte.toNat_lt; omega)
  next other =>
    by_cases short : byte ∈ [8, 9, 10, 12, 13, 34, 92]
    · simp only [List.mem_cons, List.not_mem_nil, or_false] at short
      rcases short with rfl | rfl | rfl | rfl | rfl | rfl | rfl <;> exact .escape rfl
    · simp only [List.mem_cons, List.not_mem_nil, or_false, not_or] at short other
      refine spells_writeByte short.2.2.2.2.2.1 short.2.2.2.2.2.2 ?_
      intro control
      exact other ⟨control, short.1, short.2.1, short.2.2.1, short.2.2.2.1, short.2.2.2.2.1⟩

theorem spells_writePieces {lexeme : Lexeme} (written : lexeme.IsWritten) :
    lexeme.Spells (lexeme.flatMap writePiece) := by
  induction lexeme with
  | nil => exact .nil
  | cons piece rest ih =>
      obtain ⟨byte, rfl⟩ := written piece (by simp)
      exact .cons (spells_writePiece byte) (ih fun piece member => written piece (by simp [member]))

theorem IsClean.spells {token : Token} (clean : token.IsClean) : token.Spells token.write := by
  cases token with
  | word letters => exact .word letters
  | text lexeme => exact .text (spells_writePieces clean)
  | openBrace | closeBrace | openBracket | closeBracket | colon | comma => exact .mark rfl

/-- Written tokens are spelled without blanks. -/
theorem spellsAll_write {tokens : List Token} (clean : ∀ token ∈ tokens, token.IsClean) :
    SpellsAll (tokens.flatMap write) tokens := by
  induction tokens with
  | nil => exact .nil (by simp)
  | cons token rest ih =>
      rw [List.forall_mem_cons] at clean
      have unblanked : ∀ byte ∈ ([] : Bytes), isBlank byte = true := nofun
      exact .cons unblanked clean.1.spells (ih clean.2)

end Token

end DeviceCatalog.Json
