import DeviceCatalog.Toml.Date
import DeviceCatalog.Toml.Node
import DeviceCatalog.Toml.Number
import DeviceCatalog.Toml.Text

/-!
# TOML keys and values

A key is one or more parts with points between them. The first character of a value decides its
kind, save that a date, a float and an integer may begin alike and are tried in this order. Arrays
and inline tables nest less than eighty deep, and a key has less than eighty parts.
-/

namespace DeviceCatalog.Toml

/-- One less than the number of levels and of key parts that is refused. -/
def levels : Nat := 79

/-- Characters of a key without quotes. -/
def isKeyChar (char : Char) : Bool :=
  decide ('a' ≤ char ∧ char ≤ 'z' ∨ 'A' ≤ char ∧ char ≤ 'Z' ∨ '0' ≤ char ∧ char ≤ '9') ||
    char == '_' || char == '-'

/-- Reads one part of a key. -/
def keyPart? (input : List Char) : Option (String × List Char) :=
  match input with
  | '\x22' :: _ => lineText? input
  | '\x27' :: _ => lineText? input
  | _ =>
    let part := input.takeWhile isKeyChar
    if part.isEmpty then none else some (String.ofList part, input.dropWhile isKeyChar)

/-- Reads the parts of a key, of which there are at most as many as the fuel says; blanks may stand
around each. -/
def keyParts? : Nat → Reader (List String)
  | 0, _ => none
  | fuel + 1, input => do
    let (part, rest) ← keyPart? (skipBlanks input)
    match skipBlanks rest with
    | '.' :: rest => do
      let (parts, rest) ← keyParts? fuel rest
      return (part :: parts, rest)
    | rest => return ([part], rest)

/-- A key, taken apart into the path to a table and the name in it. -/
structure Key where
  path : List String
  name : String
deriving DecidableEq, Repr

/-- Reads a key. -/
def key? : Reader Key := fun input => do
  let (parts, rest) ← keyParts? levels input
  let name ← parts.getLast?
  return (⟨parts.dropLast, name⟩, rest)

/-- Reads elements of an array with a comma between two, up to the closing bracket; a comma may also
stand after the last one. The fuel bounds the number of elements. -/
def elements? (value? : Reader Node) : Nat → Reader (List Node)
  | 0, _ => none
  | fuel + 1, input =>
    match skipLines input with
    | ']' :: rest => some ([], rest)
    | start => do
      let (first, rest) ← value? start
      match skipLines rest with
      | ',' :: rest => do
        let (others, rest) ← elements? value? fuel rest
        return (first :: others, rest)
      | ']' :: rest => return ([first], rest)
      | _ => none

/-- Reads a key, an equals sign and a value. -/
def keyValue? (value? : Reader Node) : Reader (Key × Node) := fun input => do
  let (key, rest) ← key? input
  let (node, rest) ← value? (skipBlanks (← expect? '=' rest))
  return ((key, node), rest)

/-- Reads the entries of an inline table with a comma between two, up to the closing brace. The fuel
bounds the number of entries. -/
def inlineEntries? (value? : Reader Node) : Nat → Entries → Reader Entries
  | 0, _, _ => none
  | fuel + 1, entries, input => do
    let ((key, node), rest) ← keyValue? value? input
    let entries ← entries.defineAt? true key.path key.name node
    match skipBlanks rest with
    | ',' :: rest => inlineEntries? value? fuel entries rest
    | '\x7d' :: rest => return (entries, rest)
    | _ => none

/-- Reads an inline table after its opening brace. -/
def inlineTable? (value? : Reader Node) (input : List Char) : Option (Entries × List Char) :=
  match skipBlanks input with
  | '\x7d' :: rest => some ([], rest)
  | rest => inlineEntries? value? rest.length [] rest

/-- Reads a number or a date. -/
def quantity? (input : List Char) : Option (Node × List Char) :=
  (dateTime? input).map ((.dateTime, ·)) <|>
    (float? input).map ((.float, ·)) <|>
    (integer? input).map fun read => (.integer read.1, read.2)

/-- Reads a value in which arrays and inline tables nest at most as deep as the first argument
says. -/
def value? : Nat → Reader Node
  | depth, input =>
    match input with
    | '\x22' :: _ => (text? input).map fun read => (.string read.1, read.2)
    | '\x27' :: _ => (text? input).map fun read => (.string read.1, read.2)
    | '[' :: rest =>
      match depth with
      | 0 => none
      | depth + 1 =>
        (elements? (value? depth) (rest.length + 1) rest).map fun read => (.array read.1, read.2)
    | '\x7b' :: rest =>
      match depth with
      | 0 => none
      | depth + 1 =>
        (inlineTable? (value? depth) rest).map fun read => (.table .inline read.1, read.2)
    | 't' :: 'r' :: 'u' :: 'e' :: rest => some (.boolean true, rest)
    | 'f' :: 'a' :: 'l' :: 's' :: 'e' :: rest => some (.boolean false, rest)
    | _ => quantity? input

end DeviceCatalog.Toml
