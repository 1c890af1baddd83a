import DeviceCatalog.Toml.Scan

/-!
# TOML dates and times

A date, a time of day, or both, with an offset from universal time if both are there. Days are
checked against the calendar, and a second of sixty is allowed.
-/

namespace DeviceCatalog.Toml

/-- Reads exactly two digits whose value lies in a range. -/
def twoDigits? (least greatest : Nat) : Reader Nat
  | tens :: ones :: rest => do
    let value := (← digitOf? 10 tens) * 10 + (← digitOf? 10 ones)
    if least ≤ value ∧ value ≤ greatest then some (value, rest) else none
  | _ => none

/-- Reads exactly four digits. -/
def fourDigits? (input : List Char) : Option (Nat × List Char) := do
  let (high, rest) ← twoDigits? 0 99 input
  let (low, rest) ← twoDigits? 0 99 rest
  return (high * 100 + low, rest)

/-- Whether a year has a twenty-ninth of February. -/
def isLeapYear (year : Nat) : Bool := year % 4 = 0 && (year % 100 != 0 || year % 400 = 0)

/-- Number of days of a month. -/
def daysInMonth (year month : Nat) : Nat :=
  if month = 2 then (if isLeapYear year then 29 else 28)
  else if month = 4 ∨ month = 6 ∨ month = 9 ∨ month = 11 then 30
  else 31

/-- What follows a date. -/
def date? (input : List Char) : Option (List Char) := do
  let (year, rest) ← fourDigits? input
  let (month, rest) ← twoDigits? 1 12 (← expect? '-' rest)
  let (_, rest) ← twoDigits? 1 (daysInMonth year month) (← expect? '-' rest)
  return rest

/-- What follows the fraction of a second, if there is one. -/
def skipFraction : List Char → List Char
  | '.' :: digit :: rest =>
    if (digitOf? 10 digit).isSome then rest.dropWhile fun char => (digitOf? 10 char).isSome
    else '.' :: digit :: rest
  | input => input

/-- What follows a time of day. -/
def time? (input : List Char) : Option (List Char) := do
  let (_, rest) ← twoDigits? 0 23 input
  let (_, rest) ← twoDigits? 0 59 (← expect? ':' rest)
  let (_, rest) ← twoDigits? 0 60 (← expect? ':' rest)
  return skipFraction rest

/-- What follows an offset from universal time. -/
def offset? : List Char → Option (List Char)
  | mark :: rest =>
    if mark = 'Z' ∨ mark = 'z' then some rest
    else if mark = '+' ∨ mark = '-' then do
      let (_, rest) ← twoDigits? 0 23 rest
      let (_, rest) ← twoDigits? 0 59 (← expect? ':' rest)
      return rest
    else none
  | [] => none

/-- What follows the time after a date, if there is one. -/
def skipTimeOfDate (input : List Char) : List Char :=
  match input with
  | mark :: rest =>
    if mark = 'T' ∨ mark = 't' ∨ mark = ' ' then
      match time? rest with
      | some afterTime => (offset? afterTime).getD afterTime
      | none => input
    else input
  | [] => input

/-- What follows a date or a time. -/
def dateTime? (input : List Char) : Option (List Char) :=
  (date? input).map skipTimeOfDate <|> time? input

end DeviceCatalog.Toml
