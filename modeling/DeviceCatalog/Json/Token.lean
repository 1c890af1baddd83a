import DeviceCatalog.Json.Lexeme

/-!
# Tokens

A JSON text is a sequence of tokens with blanks between them. Bytes are taken one at a time by an
automaton, so that reading a text in two parts is the same as reading it at once.
-/

namespace DeviceCatalog.Json

/-- A token. Literal names and numbers are both words; which words mean something is decided when
the value is put together. -/
inductive Token where
  | openBrace
  | closeBrace
  | openBracket
  | closeBracket
  | colon
  | comma
  | word (letters : Bytes)
  | text (lexeme : Lexeme)
deriving DecidableEq, Repr

namespace Token

/-- Blanks between tokens: space, tab, line feed, carriage return. -/
def isBlank (byte : UInt8) : Bool := byte == 32 || byte == 9 || byte == 10 || byte == 13

/-- Bytes that words are made of. -/
def isWordByte (byte : UInt8) : Bool :=
  isDigit byte || byte == 43 || byte == 45 || byte == 46 ||
    decide (65 ≤ byte ∧ byte ≤ 90) || decide (97 ≤ byte ∧ byte ≤ 122)

/-- The token that a byte is on its own. -/
def ofMark? (byte : UInt8) : Option Token :=
  if byte = 123 then some openBrace
  else if byte = 125 then some closeBrace
  else if byte = 91 then some openBracket
  else if byte = 93 then some closeBracket
  else if byte = 58 then some colon
  else if byte = 44 then some comma
  else none

/-- The byte that a short escape stands for. -/
def ofEscape? (letter : UInt8) : Option UInt8 :=
  if letter = 34 ∨ letter = 92 ∨ letter = 47 then some letter
  else if letter = 98 then some 8
  else if letter = 102 then some 12
  else if letter = 110 then some 10
  else if letter = 114 then some 13
  else if letter = 116 then some 9
  else none

/-- Value of a hexadecimal digit, in either case. -/
def ofHex? (digit : UInt8) : Option Nat :=
  if 48 ≤ digit ∧ digit ≤ 57 then some (digit.toNat - 48)
  else if 97 ≤ digit ∧ digit ≤ 102 then some (digit.toNat - 87)
  else if 65 ≤ digit ∧ digit ≤ 70 then some (digit.toNat - 55)
  else none

/-- Where in a token the next byte stands; what was read of the token is kept in reverse. -/
inductive Place where
  | between
  | word (letters : Bytes)
  | text (pieces : Lexeme)
  | escape (pieces : Lexeme)
  /-- After `\u`: the value of the digits read, and how many digits are to come after the next. -/
  | hex (pieces : Lexeme) (value more : Nat)
deriving DecidableEq, Repr

/-- The tokens read so far, in reverse, and the place of the next byte. -/
structure Scan where
  tokens : List Token
  place : Place
deriving DecidableEq, Repr

namespace Scan

/-- Nothing read. -/
def start : Scan := ⟨[], .between⟩

/-- Takes a byte that stands between two tokens. -/
def stepBetween (tokens : List Token) (byte : UInt8) : Option Scan :=
  if isBlank byte then some ⟨tokens, .between⟩
  else if byte = 34 then some ⟨tokens, .text []⟩
  else if isWordByte byte then some ⟨tokens, .word [byte]⟩
  else (ofMark? byte).map fun mark => ⟨mark :: tokens, .between⟩

/-- Takes one byte. A raw control character is refused inside a string. -/
def step (scan : Scan) (byte : UInt8) : Option Scan :=
  match scan.place with
  | .between => stepBetween scan.tokens byte
  | .word letters =>
    if isWordByte byte then some { scan with place := .word (byte :: letters) }
    else stepBetween (.word letters.reverse :: scan.tokens) byte
  | .text pieces =>
    if byte = 34 then some ⟨.text pieces.reverse :: scan.tokens, .between⟩
    else if byte = 92 then some { scan with place := .escape pieces }
    else if byte < 0x20 then none
    else some { scan with place := .text (.byte byte :: pieces) }
  | .escape pieces =>
    if byte = 117 then some { scan with place := .hex pieces 0 3 }
    else (ofEscape? byte).map fun value => { scan with place := .text (.byte value :: pieces) }
  | .hex pieces value more =>
    (ofHex? byte).map fun digit =>
      match more with
      | 0 => { scan with place := .text (.unit (value * 16 + digit) :: pieces) }
      | more + 1 => { scan with place := .hex pieces (value * 16 + digit) more }

/-- The tokens of a text that ends here; it may not end inside a string. -/
def finish : Scan → Option (List Token)
  | ⟨tokens, .between⟩ => some tokens.reverse
  | ⟨tokens, .word letters⟩ => some (.word letters.reverse :: tokens).reverse
  | _ => none

end Scan

/-- The tokens of a text. -/
def read? (text : Bytes) : Option (List Token) := text.foldlM Scan.step Scan.start >>= Scan.finish

/-- A lowercase hexadecimal digit. -/
def hexDigit (value : Nat) : UInt8 :=
  if value < 10 then (48 + value).toUInt8 else (87 + value).toUInt8

/-- How one piece of a string is written: the short escape if there is one, four hexadecimal digits
for a code unit, and every other byte as it is. -/
def writePiece : Piece → Bytes
  | .byte 34 => [92, 34]
  | .byte 92 => [92, 92]
  | .byte 8 => [92, 98]
  | .byte 12 => [92, 102]
  | .byte 10 => [92, 110]
  | .byte 13 => [92, 114]
  | .byte 9 => [92, 116]
  | .byte value => [value]
  | .unit value =>
    [92, 117, hexDigit (value / 4096 % 16), hexDigit (value / 256 % 16),
      hexDigit (value / 16 % 16), hexDigit (value % 16)]

/-- How a token is written. -/
def write : Token → Bytes
  | openBrace => [123]
  | closeBrace => [125]
  | openBracket => [91]
  | closeBracket => [93]
  | colon => [58]
  | comma => [44]
  | word letters => letters
  | text lexeme => 34 :: lexeme.flatMap writePiece ++ [34]

end Token

end DeviceCatalog.Json
