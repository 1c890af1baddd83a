import DeviceCatalog.Json.Field
import DeviceCatalog.Text.Printable

/-!
# Key layout

Every key of the directory is rooted at one collection and its parts are joined by one separator.
Five families of keys share the root: the records themselves, the set of stored ids, the name table,
and the groupings by service, by profile and by label. The records are keyed by id alone, so an id
whose record key could be a key of another family is reserved.

A layout is written as an object of its two texts, and both must be there when it is read.
-/

namespace DeviceCatalog

/-- The collection that keys are rooted at and the separator between their parts. -/
structure Layout where
  collection : String
  separator : String
deriving DecidableEq, Repr

namespace Layout

/-- The collection of existing deployments. -/
def defaultCollection : String := "md|dv"

/-- The separator of existing deployments. -/
def defaultSeparator : String := ":"

/-- The layout of existing deployments. -/
def standard : Layout := ⟨defaultCollection, defaultSeparator⟩

instance : Inhabited Layout := ⟨standard⟩

/-- Joins parts with the separator. -/
def joinKey (layout : Layout) (parts : List String) : String := Text.join layout.separator parts

/-- Key of the record of a device. -/
def recordKey (layout : Layout) (id : String) : String := layout.joinKey [layout.collection, id]

/-- Key of the sorted set of stored record keys. -/
def idIndex (layout : Layout) : String := layout.collection

/-- Key of the hash from names to record keys. -/
def nameIndex (layout : Layout) : String := layout.joinKey [layout.collection, "name"]

/-- Key of the group of a service. -/
def serviceIndex (layout : Layout) (service : String) : String :=
  layout.joinKey [layout.collection, "service", "name", service]

/-- Key of the group of a profile. -/
def profileIndex (layout : Layout) (profile : String) : String :=
  layout.joinKey [layout.collection, "profile", "name", profile]

/-- Key of the group of a label. -/
def labelIndex (layout : Layout) (label : String) : String :=
  layout.joinKey [layout.collection, "label", label]

/-! The keys of each family as one text. -/

theorem recordKey_eq (layout : Layout) (id : String) :
    layout.recordKey id = layout.collection ++ layout.separator ++ id := rfl

theorem nameIndex_eq (layout : Layout) :
    layout.nameIndex = layout.collection ++ layout.separator ++ "name" := rfl

theorem serviceIndex_eq (layout : Layout) (service : String) :
    layout.serviceIndex service =
      layout.recordKey (layout.joinKey ["service", "name", ""] ++ service) := by
  simp [serviceIndex, recordKey, joinKey, Text.join, String.append_assoc]

theorem profileIndex_eq (layout : Layout) (profile : String) :
    layout.profileIndex profile =
      layout.recordKey (layout.joinKey ["profile", "name", ""] ++ profile) := by
  simp [profileIndex, recordKey, joinKey, Text.join, String.append_assoc]

theorem labelIndex_eq (layout : Layout) (label : String) :
    layout.labelIndex label = layout.recordKey (layout.joinKey ["label", ""] ++ label) := by
  simp [labelIndex, recordKey, joinKey, Text.join, String.append_assoc]

/-- Whether the record key of an id could be the key of the name table or of a group. -/
def isReserved (layout : Layout) (id : String) : Bool :=
  id == "name" ||
    Text.startsWith id (layout.joinKey ["label", ""]) ||
    Text.startsWith id (layout.joinKey ["service", "name", ""]) ||
    Text.startsWith id (layout.joinKey ["profile", "name", ""])

/-! ## Written forms -/

/-- The JSON form of a layout. -/
def toJson (layout : Layout) : Json :=
  .object
    [(Json.Lexeme.ofText "collection", .text (Json.Lexeme.ofText layout.collection)),
      (Json.Lexeme.ofText "separator", .text (Json.Lexeme.ofText layout.separator))]

/-- The text of a layout. -/
def encode (layout : Layout) : Bytes := layout.toJson.write

/-- The layout that a JSON value describes. -/
def ofJson? (json : Json) : Option Layout := do
  let fields ← json.fields? ["collection", "separator"]
  return ⟨← Json.required? fields "collection" Json.text?,
    ← Json.required? fields "separator" Json.text?⟩

/-- The layout that a text describes. -/
def decode? (text : Bytes) : Option Layout := Json.read? text >>= ofJson?

/-- The layout with its two texts quoted. -/
def describe (layout : Layout) : String :=
  "KeyLayout \x7b collection: " ++ Text.quoted layout.collection ++ ", separator: " ++
    Text.quoted layout.separator ++ " \x7d"

end Layout

end DeviceCatalog
