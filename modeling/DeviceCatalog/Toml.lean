import DeviceCatalog.Toml.Value

/-!
# TOML documents

A document is a sequence of lines, each of them blank, a comment, a header, or a key with a value. A
header opens the table that the keys after it belong to. A mark of byte order may stand before the
first line.
-/

namespace DeviceCatalog.Toml

/-- A document read up to some line: the whole tree, and the path of the open table. -/
structure Draft where
  root : Entries
  opened : List String

namespace Draft

/-- Nothing read; keys belong to the root. -/
def start : Draft := ⟨[], []⟩

/-- Reads the rest of a header of a table after its opening bracket. -/
def tableHeader? (draft : Draft) (input : List Char) : Option (Draft × List Char) := do
  let (key, rest) ← key? input
  let rest ← lineEnd? (← expect? ']' rest)
  let root ← draft.root.openTable? key.path key.name
  return (⟨root, key.path ++ [key.name]⟩, rest)

/-- Reads the rest of a header in double brackets after the opening ones. -/
def arrayHeader? (draft : Draft) (input : List Char) : Option (Draft × List Char) := do
  let (key, rest) ← key? input
  let rest ← lineEnd? (← expect? ']' (← expect? ']' rest))
  let root ← draft.root.addTable? key.path key.name
  return (⟨root, key.path ++ [key.name]⟩, rest)

/-- Reads a key with its value. -/
def definition? (draft : Draft) (input : List Char) : Option (Draft × List Char) := do
  let ((key, node), rest) ← keyValue? (value? levels) input
  let rest ← lineEnd? rest
  let root ← draft.root.defineIn? draft.opened key.path key.name node
  return ({ draft with root := root }, rest)

/-- Reads one line that is not empty. -/
def line? (draft : Draft) (input : List Char) : Option (Draft × List Char) :=
  match input with
  | '#' :: _ => (lineEnd? input).map ((draft, ·))
  | '[' :: '[' :: rest => draft.arrayHeader? rest
  | '[' :: rest => draft.tableHeader? rest
  | '\n' :: _ => (lineBreak? input).map ((draft, ·))
  | '\r' :: _ => (lineBreak? input).map ((draft, ·))
  | _ => draft.definition? input

/-- Reads lines up to the end of the text. Every line has a character, so the fuel is the number of
characters. -/
def lines? : Nat → Draft → List Char → Option Draft
  | fuel, draft, input =>
    match skipBlanks input with
    | [] => some draft
    | start =>
      match fuel with
      | 0 => none
      | fuel + 1 => do
        let (draft, rest) ← draft.line? start
        lines? fuel draft rest

end Draft

/-- The text without a mark of byte order at its front. -/
def withoutMark : List Char → List Char
  | '\ufeff' :: rest => rest
  | input => input

/-- The root table of a document. -/
def read? (text : String) : Option Entries :=
  let input := withoutMark text.toList
  (Draft.lines? input.length .start input).map Draft.root

end DeviceCatalog.Toml
