import DeviceCatalog.Toml.Scan

/-!
# TOML documents as trees

A document is a table of named nodes. How a table came about decides what may be added to it
later: a table with a header of its own cannot be opened a second time, a table that only a longer
header implied still can, a table made by a dotted key grows by dotted keys alone, and an inline
table is complete where it stands.
-/

namespace DeviceCatalog.Toml

/-- How a table came about. -/
inductive Origin where
  /-- Written in braces. -/
  | inline
  /-- By a header of its own. -/
  | header
  /-- By the header of a table inside it. -/
  | implied
  /-- By a dotted key. -/
  | dotted
deriving DecidableEq, Repr

/-- A value, a table, or an array of tables. Of floats and of dates only their being there is
kept. -/
inductive Node where
  | string (text : String)
  | boolean (value : Bool)
  | integer (value : Int)
  | float
  | dateTime
  | array (elements : List Node)
  | table (origin : Origin) (entries : List (String × Node))
  /-- Tables that each have a header in double brackets, the last one first. -/
  | tables (newestFirst : List (List (String × Node)))

/-- Named nodes; no name stands twice. -/
abbrev Entries := List (String × Node)

namespace Entries

/-- The node with a name. -/
def find? (entries : Entries) (name : String) : Option Node := entries.lookup name

/-- Puts a node under a name that has one. -/
def replace (entries : Entries) (name : String) (node : Node) : Entries :=
  entries.map fun entry => if entry.1 == name then (name, node) else entry

/-- Puts a node under a name that has none; a name cannot be given twice. -/
def define? (entries : Entries) (name : String) (node : Node) : Option Entries :=
  if (entries.find? name).isSome then none else some (entries ++ [(name, node)])

/-- Puts a node under a dotted key, whose parts but the last are the path. Tables on the way are
made where they are missing. The table that takes the node must have been made by a dotted key
too, unless the path is empty; `isOpen` says whether it may take the node. -/
def defineAt? (isOpen : Bool) : List String → String → Node → Entries → Option Entries
  | [], name, node, entries => if isOpen then entries.define? name node else none
  | part :: path, name, node, entries =>
    match entries.find? part with
    | none => do
      let inner ← defineAt? true path name node []
      return entries ++ [(part, .table .dotted inner)]
    | some (.table .dotted inner) => do
      let inner ← defineAt? true path name node inner
      return entries.replace part (.table .dotted inner)
    | some (.table .implied inner) => do
      let inner ← defineAt? false path name node inner
      return entries.replace part (.table .implied inner)
    | some (.tables (newest :: older)) => do
      let newest ← defineAt? false path name node newest
      return entries.replace part (.tables (newest :: older))
    | _ => none

/-- Changes the table that a path of a header leads to; an array of tables stands for its newest
one. Tables on the way are made where they are missing. -/
def changeAt? (change : Entries → Option Entries) : List String → Entries → Option Entries
  | [], entries => change entries
  | part :: path, entries =>
    match entries.find? part with
    | none => do
      let inner ← changeAt? change path []
      return entries ++ [(part, .table .implied inner)]
    | some (.table origin inner) =>
      if origin = .inline then none
      else do
        let inner ← changeAt? change path inner
        return entries.replace part (.table origin inner)
    | some (.tables (newest :: older)) => do
      let newest ← changeAt? change path newest
      return entries.replace part (.tables (newest :: older))
    | _ => none

/-- Opens a table by a header: it is new, or so far only implied. -/
def openTable? (path : List String) (name : String) : Entries → Option Entries :=
  changeAt? (fun entries =>
    match entries.find? name with
    | none => some (entries ++ [(name, .table .header [])])
    | some (.table .implied inner) => some (entries.replace name (.table .header inner))
    | _ => none) path

/-- Adds a table to an array of tables by a header in double brackets. -/
def addTable? (path : List String) (name : String) : Entries → Option Entries :=
  changeAt? (fun entries =>
    match entries.find? name with
    | none => some (entries ++ [(name, .tables [[]])])
    | some (.tables older) => some (entries.replace name (.tables ([] :: older)))
    | _ => none) path

/-- Puts a node under a dotted key within the table that a header has opened. -/
def defineIn? (opened path : List String) (name : String) (node : Node) :
    Entries → Option Entries :=
  changeAt? (defineAt? true path name node) opened

end Entries

end DeviceCatalog.Toml
