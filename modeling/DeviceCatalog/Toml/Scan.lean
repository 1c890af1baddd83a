import DeviceCatalog.Text

/-!
# Reading a TOML text

A reader takes what it reads off the front of the remaining characters, or fails. This module holds
the readers that every other one uses: blanks, line ends and comments.
-/

namespace DeviceCatalog.Toml

/-- Takes a value off the front of the remaining characters. -/
abbrev Reader (value : Type) := List Char → Option (value × List Char)

/-- Space and tab. -/
def isBlank (char : Char) : Bool := char == ' ' || char == '\t'

/-- Characters that a text may hold besides line ends: tab, and all that are not control
characters. -/
def isTextChar (char : Char) : Bool :=
  char == '\t' || decide (0x20 ≤ char.toNat ∧ char.toNat ≠ 0x7f)

/-- Value of a character as a digit of a base up to sixteen, in either case. -/
def digitOf? (base : Nat) (char : Char) : Option Nat :=
  let value? :=
    if '0' ≤ char ∧ char ≤ '9' then some (char.toNat - '0'.toNat)
    else if 'a' ≤ char ∧ char ≤ 'f' then some (char.toNat - 'a'.toNat + 10)
    else if 'A' ≤ char ∧ char ≤ 'F' then some (char.toNat - 'A'.toNat + 10)
    else none
  value?.filter (· < base)

/-- Skips blanks. -/
def skipBlanks (input : List Char) : List Char := input.dropWhile isBlank

/-- What follows a line end. A carriage return ends a line only before a line feed. -/
def lineBreak? : List Char → Option (List Char)
  | '\n' :: rest => some rest
  | '\r' :: '\n' :: rest => some rest
  | _ => none

/-- Skips a comment, up to the end of its line. -/
def skipComment : List Char → List Char
  | '#' :: rest => rest.dropWhile isTextChar
  | input => input

/-- What follows the end of a line, which may be the end of the text. Blanks and a comment may come
before it. -/
def lineEnd? (input : List Char) : Option (List Char) :=
  match skipComment (skipBlanks input) with
  | [] => some []
  | rest => lineBreak? rest

/-- Skips one character. -/
def expect? (mark : Char) : List Char → Option (List Char)
  | char :: rest => if char = mark then some rest else none
  | [] => none

/-- Skips blanks, comments and line ends, as they may stand between the elements of an array; a
comment must end with its line. The fuel is the number of characters. -/
def skipLinesFrom : Nat → List Char → List Char
  | 0, input => input
  | fuel + 1, input =>
    let rest := skipBlanks input
    match lineBreak? (skipComment rest) with
    | some next => skipLinesFrom fuel next
    | none => rest

/-- Skips blanks, comments and line ends. -/
def skipLines (input : List Char) : List Char := skipLinesFrom input.length input

end DeviceCatalog.Toml
