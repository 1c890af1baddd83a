import DeviceCatalog.Device
import DeviceCatalog.Json.Field

/-!
# The stored form of a device

A device is stored as one JSON object with its fields in a fixed order; an empty description and an
empty table of protocols are left out. Reading takes the fields in any order, ignores fields that it
does not know, and fills in the fields that may be left out.
-/

namespace DeviceCatalog

namespace AdminState

/-- Name of the state in a record. -/
def label : AdminState → String
  | unlocked => "UNLOCKED"
  | locked => "LOCKED"

/-- The state with a name. -/
def ofLabel? (text : String) : Option AdminState :=
  [unlocked, locked].find? (·.label == text)

end AdminState

namespace OperatingState

/-- Name of the state in a record. -/
def label : OperatingState → String
  | up => "UP"
  | down => "DOWN"
  | unknown => "UNKNOWN"

/-- The state with a name. -/
def ofLabel? (text : String) : Option OperatingState :=
  [up, down, unknown].find? (·.label == text)

end OperatingState

namespace Device

/-- Entries of a table of protocols, in the order in which they are written. -/
abbrev ProtocolListing := List (String × List (String × String))

/-- The entries of a table of protocols, sorted by name on both levels. -/
def protocolListing (protocols : Protocols) : ProtocolListing :=
  protocols.toList.map fun entry => (entry.1, entry.2.toList)

/-- The JSON form of a text. -/
def textJson (text : String) : Json := .text (Json.Lexeme.ofText text)

/-- An object with the given members. -/
def objectJson (members : List (String × Json)) : Json :=
  .object (members.map fun member => (Json.Lexeme.ofText member.1, member.2))

/-- The JSON form of a table of protocols. -/
def protocolsJson (listing : ProtocolListing) : Json :=
  objectJson (listing.map fun protocol =>
    (protocol.1, objectJson (protocol.2.map fun property => (property.1, textJson property.2))))

/-- The JSON form of a device, with its protocols written in a given order. -/
def toJsonWith (device : Device) (listing : ProtocolListing) : Json :=
  objectJson (
    [("id", textJson device.id), ("name", textJson device.name)] ++
    (if device.description.isEmpty then [] else [("description", textJson device.description)]) ++
    [("adminState", textJson device.adminState.label),
      ("operatingState", textJson device.operatingState.label),
      ("serviceName", textJson device.service),
      ("profileName", textJson device.profile),
      ("labels", .array (device.labels.map textJson))] ++
    (if device.protocols.isEmpty then [] else [("protocols", protocolsJson listing)]) ++
    [("created", .number (Json.Number.ofInt64 device.created)),
      ("modified", .number (Json.Number.ofInt64 device.modified))])

/-- The JSON form of a device, with its protocols sorted. -/
def toJson (device : Device) : Json := device.toJsonWith (protocolListing device.protocols)

/-- The stored form of a device. -/
def encode (device : Device) : Bytes := device.toJson.write

/-- Names of the fields of a record, in their order. -/
def fieldNames : List String :=
  ["id", "name", "description", "adminState", "operatingState", "serviceName", "profileName",
    "labels", "protocols", "created", "modified"]

/-- The device that a JSON value describes. -/
def ofJson? (json : Json) : Option Device := do
  let fields ← json.fields? fieldNames
  return {
    id := ← Json.required? fields "id" Json.text?
    name := ← Json.required? fields "name" Json.text?
    description := ← Json.optional? fields "description" Json.text? ""
    adminState :=
      ← Json.optional? fields "adminState" (fun json => json.caseName? >>= AdminState.ofLabel?)
        .unlocked
    operatingState :=
      ← Json.optional? fields "operatingState"
        (fun json => json.caseName? >>= OperatingState.ofLabel?) .unknown
    service := ← Json.required? fields "serviceName" Json.text?
    profile := ← Json.required? fields "profileName" Json.text?
    labels := ← Json.optional? fields "labels" Json.texts? []
    protocols := ← Json.optional? fields "protocols" (Json.mapOf? (Json.mapOf? Json.text?)) ∅
    created := ← Json.optional? fields "created" Json.int64? 0
    modified := ← Json.optional? fields "modified" Json.int64? 0
  }

/-- The device that a stored value describes. -/
def decode (bytes : Bytes) : Except Error Device :=
  match Json.read? bytes >>= ofJson? with
  | some device => .ok device
  | none => .error (.contractInvalid "unable to JSON unmarshal device" .malformedJson)

end Device

end DeviceCatalog
