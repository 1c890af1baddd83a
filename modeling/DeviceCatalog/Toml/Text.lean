import DeviceCatalog.Toml.Scan

/-!
# TOML strings

A string is written in one of four forms: between quotes or between apostrophes, on one line or on
several. Between quotes a backslash starts an escape; between apostrophes every character stands for
itself. A string on several lines stands between three marks; a line end right after the first three
does not belong to it, and up to two marks may stand next to the last three.
-/

namespace DeviceCatalog.Toml

/-! ## Reading -/

/-- The character whose code point the digits give; a surrogate is no character. -/
def charOfHex? (digits : List Char) : Option Char := do
  let code ← digits.foldlM (fun value digit => do return value * 16 + (← digitOf? 16 digit)) 0
  if code.isValidChar then some (Char.ofNat code) else none

/-- The character that a short escape stands for. -/
def shortEscape? (letter : Char) : Option Char :=
  if letter = 'b' then some '\x08'
  else if letter = 't' then some '\t'
  else if letter = 'n' then some '\n'
  else if letter = 'f' then some '\x0c'
  else if letter = 'r' then some '\r'
  else if letter = '\x22' ∨ letter = '\\' then some letter
  else none

/-- A character put in front of what a reader has read. -/
def push (char : Char) : Option (List Char × List Char) → Option (List Char × List Char) :=
  Option.map fun read => (char :: read.1, read.2)

/-- Reads up to the closing quote of a string on one line. -/
def quotedLine : List Char → Option (List Char × List Char)
  | '\x22' :: rest => some ([], rest)
  | '\\' :: 'u' :: a :: b :: c :: d :: rest => do
    push (← charOfHex? [a, b, c, d]) (quotedLine rest)
  | '\\' :: 'U' :: a :: b :: c :: d :: e :: f :: g :: h :: rest => do
    push (← charOfHex? [a, b, c, d, e, f, g, h]) (quotedLine rest)
  | '\\' :: letter :: rest => do push (← shortEscape? letter) (quotedLine rest)
  | char :: rest =>
    if isTextChar char && char != '\\' then push char (quotedLine rest) else none
  | [] => none

/-- Where the next character of a string on several lines stands. -/
inductive LinePlace where
  | content
  /-- After a backslash at the end of a line, before the line end itself. -/
  | beforeBreak
  /-- After such a line end: blanks and line ends do not belong to the string. -/
  | afterBreak
deriving DecidableEq, Repr

/-- Reads up to the closing quotes of a string on several lines. -/
def quotedLines : LinePlace → List Char → Option (List Char × List Char)
  | .beforeBreak, '\r' :: '\n' :: rest => quotedLines .afterBreak rest
  | .beforeBreak, char :: rest =>
    if char = '\n' then quotedLines .afterBreak rest
    else if isBlank char then quotedLines .beforeBreak rest
    else none
  | .afterBreak, '\r' :: '\n' :: rest => quotedLines .afterBreak rest
  | .content, '\r' :: '\n' :: rest => push '\n' (quotedLines .content rest)
  | _, '\x22' :: '\x22' :: '\x22' :: '\x22' :: '\x22' :: rest => some (['\x22', '\x22'], rest)
  | _, '\x22' :: '\x22' :: '\x22' :: '\x22' :: rest => some (['\x22'], rest)
  | _, '\x22' :: '\x22' :: '\x22' :: rest => some ([], rest)
  | _, '\\' :: 'u' :: a :: b :: c :: d :: rest => do
    push (← charOfHex? [a, b, c, d]) (quotedLines .content rest)
  | _, '\\' :: 'U' :: a :: b :: c :: d :: e :: f :: g :: h :: rest => do
    push (← charOfHex? [a, b, c, d, e, f, g, h]) (quotedLines .content rest)
  | _, '\\' :: letter :: rest =>
    if isBlank letter || letter == '\n' || letter == '\r' then
      quotedLines .beforeBreak (letter :: rest)
    else do push (← shortEscape? letter) (quotedLines .content rest)
  | place, char :: rest =>
    if place = .afterBreak ∧ (isBlank char ∨ char = '\n') then quotedLines .afterBreak rest
    else if (isTextChar char && char != '\\') || char == '\n' then
      push char (quotedLines .content rest)
    else none
  | _, [] => none

/-- Reads up to the closing apostrophe of a string on one line. -/
def literalLine : List Char → Option (List Char × List Char)
  | '\x27' :: rest => some ([], rest)
  | char :: rest => if isTextChar char then push char (literalLine rest) else none
  | [] => none

/-- Reads up to the closing apostrophes of a string on several lines. -/
def literalLines : List Char → Option (List Char × List Char)
  | '\r' :: '\n' :: rest => push '\n' (literalLines rest)
  | '\x27' :: '\x27' :: '\x27' :: '\x27' :: '\x27' :: rest => some (['\x27', '\x27'], rest)
  | '\x27' :: '\x27' :: '\x27' :: '\x27' :: rest => some (['\x27'], rest)
  | '\x27' :: '\x27' :: '\x27' :: rest => some ([], rest)
  | char :: rest =>
    if isTextChar char || char == '\n' then push char (literalLines rest) else none
  | [] => none

/-- The text after three opening marks, without a line end right after them. -/
def afterOpening (input : List Char) : List Char := (lineBreak? input).getD input

/-- Reads a string on one line, in either form. -/
def lineText? : Reader String
  | '\x22' :: rest => (quotedLine rest).map fun read => (String.ofList read.1, read.2)
  | '\x27' :: rest => (literalLine rest).map fun read => (String.ofList read.1, read.2)
  | _ => none

/-- Reads a string in any form. -/
def text? : Reader String
  | '\x22' :: '\x22' :: '\x22' :: rest =>
    (quotedLines .content (afterOpening rest)).map fun read => (String.ofList read.1, read.2)
  | '\x27' :: '\x27' :: '\x27' :: rest =>
    (literalLines (afterOpening rest)).map fun read => (String.ofList read.1, read.2)
  | input => lineText? input

/-! ## Writing -/

/-- Length of the longest run of one character. -/
def longestRun (mark : Char) (text : List Char) : Nat :=
  (text.foldl (fun (run : Nat × Nat) char =>
    if char = mark then (run.1 + 1, max run.2 (run.1 + 1)) else (0, run.2)) (0, 0)).2

/-- Control characters that only an escape can write: all but tab and line feed. -/
def needsEscape (char : Char) : Bool :=
  char != '\t' && char != '\n' && decide (char.toNat < 0x20 ∨ char.toNat = 0x7f)

/-- The forms in which a string is written. -/
inductive TextForm where
  | quotedLine
  | quotedLines
  | literalLine
  | literalLines
deriving DecidableEq, Repr

/-- The form in which a string is written: the first of quoted line, literal line, quoted lines and
literal lines that holds the string as it is, and otherwise quoted with escapes. -/
def TextForm.of (text : List Char) : TextForm :=
  let escapes := text.any needsEscape
  let backslash := text.contains '\\'
  let lineFeed := text.contains '\n'
  let quotes := longestRun '\x22' text
  let apostrophes := longestRun '\x27' text
  if !escapes && !backslash && quotes == 0 && !lineFeed then .quotedLine
  else if !escapes && apostrophes == 0 && !lineFeed then .literalLine
  else if !escapes && !backslash && decide (quotes ≤ 2) then .quotedLines
  else if !escapes && decide (apostrophes ≤ 2) then .literalLines
  else if lineFeed then .quotedLines
  else .quotedLine

/-- Four hexadecimal digits of a control character. -/
def controlDigits (char : Char) : List Char :=
  let digits := (Nat.toDigits 16 char.toNat).map Char.toUpper
  List.replicate (4 - digits.length) '0' ++ digits

/-- How a character other than a quote stands between quotes. A line feed is escaped only on one
line. -/
def escapeChar (severalLines : Bool) (char : Char) : List Char :=
  if char = '\x08' then ['\\', 'b']
  else if char = '\t' then ['\\', 't']
  else if char = '\n' then if severalLines then ['\n'] else ['\\', 'n']
  else if char = '\x0c' then ['\\', 'f']
  else if char = '\r' then ['\\', 'r']
  else if char = '\\' then ['\\', '\\']
  else if needsEscape char then '\\' :: 'u' :: controlDigits char
  else [char]

/-- A string between quotes. A quote is escaped when as many quotes as may stand there stand right
before it: none on one line, two on several. -/
def escapeText (severalLines : Bool) : Nat → List Char → List Char
  | _, [] => []
  | run, char :: rest =>
    if char = '\x22' then
      if run = (if severalLines then 2 else 0) then
        '\\' :: '\x22' :: escapeText severalLines 0 rest
      else '\x22' :: escapeText severalLines (run + 1) rest
    else escapeChar severalLines char ++ escapeText severalLines 0 rest

/-- The line feed after three opening marks, which is written when the string itself has one. -/
def openingBreak (text : List Char) : List Char := if text.contains '\n' then ['\n'] else []

/-- A string as it is written. -/
def writeText (text : String) : List Char :=
  let chars := text.toList
  let quotes := List.replicate 3 '\x22'
  let apostrophes := List.replicate 3 '\x27'
  match TextForm.of chars with
  | .quotedLine => '\x22' :: escapeText false 0 chars ++ ['\x22']
  | .literalLine => '\x27' :: chars ++ ['\x27']
  | .quotedLines => quotes ++ openingBreak chars ++ escapeText true 0 chars ++ quotes
  | .literalLines => apostrophes ++ openingBreak chars ++ chars ++ apostrophes

end DeviceCatalog.Toml
