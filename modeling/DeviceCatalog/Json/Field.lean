import DeviceCatalog.Json

/-!
# Reading typed values

How the fields of a record are read from JSON. The names of members and the strings that are asked
for must be texts; a null is never taken for a value; a name that is asked for may stand only once.
A record may also be written as an array of its fields in their order.
-/

namespace DeviceCatalog.Json

/-- A string. -/
def text? : Json → Option String
  | .text lexeme => lexeme.text?
  | _ => none

/-- A machine integer. -/
def int64? : Json → Option Int64
  | .number lexeme => Number.int64? lexeme
  | _ => none

/-- An array of strings. -/
def texts? : Json → Option (List String)
  | .array elements => elements.mapM text?
  | _ => none

/-- The members of an object, with their names as texts. -/
def members? : Json → Option (List (String × Json))
  | .object members => members.mapM fun member => do return (← member.1.text?, member.2)
  | _ => none

/-- An object as a map. Of the values of a repeated name the last one counts, but each must be
read. -/
def mapOf? {value : Type} (read? : Json → Option value) (json : Json) :
    Option (Text.Map value) := do
  let members ← json.members?
  members.foldlM (fun map member => do return map.insert member.1 (← read? member.2)) ∅

/-- The name of a case: a string, or an object whose only member has that name and the value null.
-/
def caseName? : Json → Option String
  | .text lexeme => lexeme.text?
  | .object [(key, .null)] => key.text?
  | _ => none

/-- The fields of a record that has the given fields: the members of an object, or the elements of
an array in the order of the fields. -/
def fields? (names : List String) : Json → Option (List (String × Json))
  | .array elements =>
    if elements.length ≤ names.length then some (names.zip elements) else none
  | json => json.members?

/-- The value of a field, read once; `none` outside stands for a failure and inside for a field that
is not there. -/
def field? {value : Type} (fields : List (String × Json)) (name : String)
    (read? : Json → Option value) : Option (Option value) :=
  match fields.filter (·.1 == name) with
  | [] => some none
  | [(_, json)] => (read? json).map some
  | _ => none

/-- The value of a field that must be there. -/
def required? {value : Type} (fields : List (String × Json)) (name : String)
    (read? : Json → Option value) : Option value :=
  match field? fields name read? with
  | some found => found
  | none => none

/-- The value of a field that takes a fixed value when it is not there. -/
def optional? {value : Type} (fields : List (String × Json)) (name : String)
    (read? : Json → Option value) (absent : value) : Option value :=
  (field? fields name read?).map fun found => found.getD absent

end DeviceCatalog.Json
