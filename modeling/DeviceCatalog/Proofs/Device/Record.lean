import DeviceCatalog.Device.Record
import DeviceCatalog.Proofs.Json.Assembly
import DeviceCatalog.Proofs.Json.Field

/-!
# Reading back a record

A device is read back from its stored form, and the order in which its protocols were written does
not matter. The fields that are left out are exactly those that reading fills in.
-/

namespace DeviceCatalog

namespace Json

@[simp] theorem text?_textJson (text : String) : text? (Device.textJson text) = some text :=
  Lexeme.text?_ofText text

theorem int64?_ofInt64 (number : Int64) :
    int64? (.number (Number.ofInt64 number)) = some number :=
  Number.int64?_ofInt64 number

theorem texts?_textJson (texts : List String) :
    texts? (.array (texts.map Device.textJson)) = some texts := by
  refine texts?_eq_some_iff.2 ⟨_, rfl, ?_⟩
  rw [List.forall₂_map_left_iff, List.forall₂_same]
  exact fun text _ => text?_eq_some_iff.1 (text?_textJson text)

theorem members?_objectJson (members : List (String × Json)) :
    members? (Device.objectJson members) = some members := by
  refine members?_eq_some_iff.2 ⟨_, rfl, ?_⟩
  rw [List.forall₂_map_left_iff, List.forall₂_same]
  exact fun member _ => ⟨Lexeme.text?_eq_some_iff.1 (Lexeme.text?_ofText member.1), rfl⟩

/-- A map is read from its entries, each of which is read from what it is written as. -/
theorem mapOf?_objectJson {written held : Type} {read? : Json → Option held}
    {write : written → Json} {value : written → held}
    (readable : ∀ entry, read? (write entry) = some (value entry))
    (entries : List (String × written)) :
    mapOf? read? (Device.objectJson (entries.map fun entry => (entry.1, write entry.2))) =
      some (Std.ExtTreeMap.ofList (entries.map fun entry => (entry.1, value entry.2))) := by
  rw [mapOf?, members?_objectJson, Option.bind_eq_bind, Option.bind_some,
    Std.ExtTreeMap.ofList_eq_insertMany_empty]
  generalize (∅ : Text.Map held) = before
  induction entries generalizing before with
  | nil => rfl
  | cons entry rest ih =>
      rw [List.map_cons, List.foldlM_cons, readable]
      exact (ih _).trans (by rw [List.map_cons, Std.ExtTreeMap.insertMany_cons])

/-! ## Fields with distinct names -/

variable {value : Type} {fields : List (String × Json)} {name : String} {json : Json}
variable {read? : Json → Option value} {found : value}

theorem required?_of_mem (distinct : (fields.map Prod.fst).Nodup) (listed : (name, json) ∈ fields)
    (readable : read? json = some found) : required? fields name read? = some found :=
  (required?_eq_some_iff fun _ _ => Iff.rfl).2 (.of_mem distinct listed readable)

theorem optional?_of_mem (distinct : (fields.map Prod.fst).Nodup) (listed : (name, json) ∈ fields)
    (readable : read? json = some found) (absent : value) :
    optional? fields name read? absent = some found :=
  (optional?_eq_some_iff fun _ _ => Iff.rfl).2 (.inr (.of_mem distinct listed readable))

/-- A field that is left out when it has the default is read back. -/
theorem optional?_of_written (distinct : (fields.map Prod.fst).Nodup)
    (readable : read? json = some found) {absent : value}
    (written : found ≠ absent → (name, json) ∈ fields)
    (unnamed : found = absent → name ∉ fields.map Prod.fst) :
    optional? fields name read? absent = some found := by
  refine (optional?_eq_some_iff fun _ _ => Iff.rfl).2 ?_
  by_cases default : found = absent
  · exact .inl ⟨unnamed default, default⟩
  · exact .inr (.of_mem distinct (written default) readable)

end Json

namespace Device

/-- The table that a listing of protocols writes down. -/
def protocolsOf (listing : ProtocolListing) : Protocols :=
  Std.ExtTreeMap.ofList (listing.map fun protocol =>
    (protocol.1, Std.ExtTreeMap.ofList protocol.2))

/-- The listing has every protocol of the table once, and with it every property once, in some order
on both levels. -/
def Lists (listing : ProtocolListing) (protocols : Protocols) : Prop :=
  ∃ order : List (String × Text.Map String), order.Perm protocols.toList ∧
    List.Forall₂ (fun written held => written.1 = held.1 ∧ written.2.Perm held.2.toList)
      listing order

theorem lists_protocolListing (protocols : Protocols) :
    Lists (protocolListing protocols) protocols := by
  refine ⟨protocols.toList, .refl _, ?_⟩
  rw [protocolListing, List.forall₂_map_left_iff, List.forall₂_same]
  exact fun entry _ => ⟨rfl, .refl _⟩

/-- However the entries of a table are ordered, they make up the table. -/
theorem Lists.protocolsOf_eq {listing : ProtocolListing} {protocols : Protocols}
    (lists : Lists listing protocols) : protocolsOf listing = protocols := by
  obtain ⟨order, permuted, each⟩ := lists
  have tables : listing.map (fun protocol => (protocol.1, Std.ExtTreeMap.ofList protocol.2)) =
      order := by
    clear permuted
    induction each with
    | nil => rfl
    | @cons written held _ _ same _ ih =>
        rw [List.map_cons, ih, same.1, Text.Map.ofList_of_perm same.2]
  rw [protocolsOf, tables]
  exact Text.Map.ofList_of_perm permuted

theorem mapOf?_protocolsJson (listing : ProtocolListing) :
    Json.mapOf? (Json.mapOf? Json.text?) (protocolsJson listing) = some (protocolsOf listing) := by
  let write (properties : List (String × String)) : Json :=
    objectJson (properties.map fun property => (property.1, textJson property.2))
  have inner : ∀ properties, Json.mapOf? Json.text? (write properties) =
      some (Std.ExtTreeMap.ofList properties) := by
    intro properties
    simpa using Json.mapOf?_objectJson Json.text?_textJson properties
  exact Json.mapOf?_objectJson inner listing

theorem caseOf?_textJson {case : Type} {ofLabel? : String → Option case} {text : String}
    {found : case} (labelled : ofLabel? text = some found) :
    (textJson text).caseName?.bind ofLabel? = some found := by
  have named : (textJson text).caseName? = some text := Json.Lexeme.text?_ofText text
  rw [named]
  exact labelled

@[simp] theorem ofLabel?_label_adminState (state : AdminState) :
    AdminState.ofLabel? state.label = some state := by
  cases state <;> rfl

@[simp] theorem ofLabel?_label_operatingState (state : OperatingState) :
    OperatingState.ofLabel? state.label = some state := by
  cases state <;> rfl

theorem isClean_textJson (text : String) : (textJson text).IsClean :=
  .text (Json.Lexeme.isWritten_ofText text)

theorem isClean_objectJson {members : List (String × Json)}
    (clean : ∀ member ∈ members, member.2.IsClean) : (objectJson members).IsClean := by
  refine .object ?_ ?_
  · intro member listed
    obtain ⟨source, _, rfl⟩ := List.mem_map.1 listed
    exact Json.Lexeme.isWritten_ofText source.1
  · intro member listed
    obtain ⟨source, present, rfl⟩ := List.mem_map.1 listed
    exact clean source present

theorem isClean_protocolsJson (listing : ProtocolListing) : (protocolsJson listing).IsClean := by
  refine isClean_objectJson fun member listed => ?_
  obtain ⟨protocol, _, rfl⟩ := List.mem_map.1 listed
  refine isClean_objectJson fun property present => ?_
  obtain ⟨source, _, rfl⟩ := List.mem_map.1 present
  exact isClean_textJson source.2

/-- The JSON form of a device can be read back from its text. -/
theorem isClean_toJsonWith (device : Device) (listing : ProtocolListing) :
    (device.toJsonWith listing).IsClean := by
  have number : ∀ value, (Json.number (Json.Number.ofInt64 value)).IsClean := fun value =>
    .number (Json.Number.isWellFormed_ofInt64 value) (Json.Number.all_isWordByte_ofInt64 value)
  have labels : (Json.array (device.labels.map textJson)).IsClean := by
    refine .array fun element listed => ?_
    obtain ⟨label, _, rfl⟩ := List.mem_map.1 listed
    exact isClean_textJson label
  have optional : ∀ (absent : Bool) (name : String) (value : Json), value.IsClean →
      ∀ member ∈ (if absent = true then [] else [(name, value)]), member.2.IsClean := by
    intro absent name value clean member listed
    cases absent with
    | true => cases listed
    | false =>
        cases List.mem_singleton.1 listed
        exact clean
  refine isClean_objectJson ?_
  simp only [List.forall_mem_append, List.forall_mem_cons, List.not_mem_nil, false_implies,
    implies_true, and_true]
  exact ⟨⟨⟨⟨⟨isClean_textJson _, isClean_textJson _⟩, optional _ _ _ (isClean_textJson _)⟩,
    isClean_textJson _, isClean_textJson _, isClean_textJson _, isClean_textJson _, labels⟩,
    optional _ _ _ (isClean_protocolsJson listing)⟩, number _, number _⟩

/-- The fields that are written for a device, in their order. -/
def writtenFields (device : Device) (listing : ProtocolListing) : List (String × Json) :=
  [("id", textJson device.id), ("name", textJson device.name)] ++
    (if device.description.isEmpty then [] else [("description", textJson device.description)]) ++
    [("adminState", textJson device.adminState.label),
      ("operatingState", textJson device.operatingState.label),
      ("serviceName", textJson device.service),
      ("profileName", textJson device.profile),
      ("labels", .array (device.labels.map textJson))] ++
    (if device.protocols.isEmpty then [] else [("protocols", protocolsJson listing)]) ++
    [("created", .number (Json.Number.ofInt64 device.created)),
      ("modified", .number (Json.Number.ofInt64 device.modified))]

theorem toJsonWith_eq (device : Device) (listing : ProtocolListing) :
    device.toJsonWith listing = objectJson (device.writtenFields listing) := rfl

variable {device : Device} {listing : ProtocolListing}

theorem names_writtenFields :
    (device.writtenFields listing).map Prod.fst =
      ["id", "name"] ++ (if device.description.isEmpty then [] else ["description"]) ++
        ["adminState", "operatingState", "serviceName", "profileName", "labels"] ++
        (if device.protocols.isEmpty then [] else ["protocols"]) ++ ["created", "modified"] := by
  rw [writtenFields]
  split <;> split <;> rfl

theorem nodup_writtenFields : ((device.writtenFields listing).map Prod.fst).Nodup := by
  rw [names_writtenFields]
  split <;> split <;> decide

theorem description_mem_writtenFields :
    "description" ∈ (device.writtenFields listing).map Prod.fst ↔ device.description ≠ "" := by
  rw [names_writtenFields, ne_eq, ← String.isEmpty_iff]
  split <;> split <;> simp_all

theorem protocols_mem_writtenFields :
    "protocols" ∈ (device.writtenFields listing).map Prod.fst ↔ device.protocols ≠ ∅ := by
  rw [names_writtenFields, ne_eq, ← Std.ExtTreeMap.isEmpty_iff]
  split <;> split <;> simp_all

theorem description_of_writtenFields :
    Json.optional? (device.writtenFields listing) "description" Json.text? "" =
      some device.description := by
  refine Json.optional?_of_written nodup_writtenFields (Json.text?_textJson _) (fun filled => ?_)
    fun empty named => description_mem_writtenFields.1 named empty
  simp [writtenFields, filled]

theorem protocols_of_writtenFields (same : protocolsOf listing = device.protocols) :
    Json.optional? (device.writtenFields listing) "protocols" (Json.mapOf? (Json.mapOf? Json.text?))
      ∅ = some device.protocols := by
  refine Json.optional?_of_written nodup_writtenFields (same ▸ mapOf?_protocolsJson listing)
    (fun filled => ?_) fun empty named => protocols_mem_writtenFields.1 named empty
  simp [writtenFields, filled]

/-- A device is read back from its JSON form, in whatever order its protocols are listed. -/
theorem ofJson?_toJsonWith (same : protocolsOf listing = device.protocols) :
    ofJson? (device.toJsonWith listing) = some device := by
  have fields : (device.toJsonWith listing).fields? fieldNames =
      some (device.writtenFields listing) := by
    rw [toJsonWith_eq]
    exact Json.members?_objectJson _
  have required (name text : String)
      (listed : (name, textJson text) ∈ device.writtenFields listing) :
      Json.required? (device.writtenFields listing) name Json.text? = some text :=
    Json.required?_of_mem nodup_writtenFields listed (Json.text?_textJson text)
  have optional {value : Type} (name : String) {json : Json} {read? : Json → Option value}
      {found : value} (absent : value) (readable : read? json = some found)
      (listed : (name, json) ∈ device.writtenFields listing) :
      Json.optional? (device.writtenFields listing) name read? absent = some found :=
    Json.optional?_of_mem nodup_writtenFields listed readable absent
  have id := required "id" device.id (by simp [writtenFields])
  have name := required "name" device.name (by simp [writtenFields])
  have service := required "serviceName" device.service (by simp [writtenFields])
  have profile := required "profileName" device.profile (by simp [writtenFields])
  have adminState := @optional _ "adminState" (textJson device.adminState.label)
    (fun json => json.caseName?.bind AdminState.ofLabel?) _ .unlocked
    (caseOf?_textJson (ofLabel?_label_adminState device.adminState)) (by simp [writtenFields])
  have operatingState := @optional _ "operatingState" (textJson device.operatingState.label)
    (fun json => json.caseName?.bind OperatingState.ofLabel?) _ .unknown
    (caseOf?_textJson (ofLabel?_label_operatingState device.operatingState))
    (by simp [writtenFields])
  have labels := optional "labels" [] (Json.texts?_textJson device.labels) (by simp [writtenFields])
  have created := optional "created" 0 (Json.int64?_ofInt64 device.created)
    (by simp [writtenFields])
  have modified := optional "modified" 0 (Json.int64?_ofInt64 device.modified)
    (by simp [writtenFields])
  rw [ofJson?, fields]
  simp only [id, name, description_of_writtenFields, adminState, operatingState, service, profile,
    labels, protocols_of_writtenFields same, created, modified, Option.bind_eq_bind,
    Option.bind_some, Option.pure_def]

/-- A device is read back from what is written for it, in whatever order its protocols are listed. -/
theorem decode_write (lists : Lists listing device.protocols) :
    decode (device.toJsonWith listing).write = .ok device := by
  rw [decode, Json.read?_write (isClean_toJsonWith device _), Option.bind_eq_bind,
    Option.bind_some, ofJson?_toJsonWith lists.protocolsOf_eq]

/-- A device is read back from its stored form. -/
theorem decode_encode (device : Device) : decode device.encode = .ok device :=
  decode_write (lists_protocolListing device.protocols)

/-- Every device has a stored form from which it is read back, and so it is from every other text that
lists its protocols and their properties in another order. A record names a description and protocols
just when the device has any, so nothing is lost by leaving them out. -/
theorem decode_of_lists (device : Device) :
    decode device.encode = .ok device ∧
      ∀ listing, Lists listing device.protocols →
        decode (device.toJsonWith listing).write = .ok device ∧
        ∃ fields, (device.toJsonWith listing).members? = some fields ∧
          ("description" ∈ fields.map Prod.fst ↔ device.description ≠ "") ∧
          ("protocols" ∈ fields.map Prod.fst ↔ device.protocols ≠ ∅) := by
  refine ⟨device.decode_encode, fun listing lists => ⟨decode_write lists, ?_⟩⟩
  exact ⟨device.writtenFields listing, Json.members?_objectJson _, description_mem_writtenFields,
    protocols_mem_writtenFields⟩

/-- Protocols out of order, one of them without properties and one with its properties reversed. -/
theorem decode_of_lists_reversed :
    let properties : Text.Map String := (∅ : Text.Map String).insert "a" "1" |>.insert "b" ""
    let protocols : Protocols := (∅ : Protocols).insert "x" properties |>.insert "y" ∅
    let device :=
      { Device.plain "" "\u0000\"" "s" "p" with protocols := protocols, created := Int64.minValue }
    let listing := [("y", []), ("x", [("b", ""), ("a", "1")])]
    Lists listing device.protocols ∧ decode (device.toJsonWith listing).write = .ok device := by
  intro properties protocols device listing
  have lists : Lists listing device.protocols := by
    refine ⟨[("y", ∅), ("x", properties)], ?_, ?_⟩
    · have sorted : protocols.toList = [("x", properties), ("y", ∅)] := by rfl
      rw [sorted]
      exact .swap _ _ []
    · have sorted : properties.toList = [("a", "1"), ("b", "")] := by rfl
      have reversed : [("b", ""), ("a", "1")].Perm properties.toList := sorted ▸ .swap _ _ []
      exact .cons ⟨rfl, .nil⟩ (.cons ⟨rfl, reversed⟩ .nil)
  exact ⟨lists, ((decode_of_lists device).2 listing lists).1⟩

end Device

end DeviceCatalog
