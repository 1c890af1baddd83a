import DeviceCatalog.Proofs.Device.Record
import DeviceCatalog.Proofs.Json.Exactness
import DeviceCatalog.Proofs.Json.Field

/-!
# Which records are accepted

A record that was written elsewhere is a JSON object with its members in any order, with members that the
directory does not know, and with blanks and escapes of the writer's choice. It is accepted exactly when
it describes a device, and it is then read as this device.
-/

namespace DeviceCatalog.Device

open Json

/-- A state is found among all states when its label is the name that is looked for. -/
theorem find?_label_eq_some_iff {state : Type} {label : state → String} {states : List state}
    (complete : ∀ state, states.find? (label · == label state) = some state) (name : String)
    (wanted : state) : states.find? (label · == name) = some wanted ↔ name = label wanted := by
  constructor
  · intro labelled
    have found := List.find?_some labelled
    exact (beq_iff_eq.1 found).symm
  · rintro rfl
    exact complete wanted

/-- The state of a name is read when the name is its label. -/
theorem caseOf?_eq_some_iff {case : Type} {label : case → String} {ofLabel? : String → Option case}
    (labelled : ∀ name state, ofLabel? name = some state ↔ name = label state) (json : Json)
    (state : case) : json.caseName?.bind ofLabel? = some state ↔ json.IsCase label state := by
  simp only [Option.bind_eq_some_iff, labelled, exists_eq_right,
    caseName?_eq_some_iff, IsCase]

/-- The fields describe the device: those that a record must have are there once, those that it may have
are there once or are taken from the default, and each has a value of its type. -/
structure Describes (fields : List (String × Json)) (device : Device) : Prop where
  id : Once fields "id" IsText device.id
  name : Once fields "name" IsText device.name
  service : Once fields "serviceName" IsText device.service
  profile : Once fields "profileName" IsText device.profile
  description : AtMostOnce fields "description" IsText "" device.description
  adminState : AtMostOnce fields "adminState" (IsCase AdminState.label) .unlocked device.adminState
  operatingState : AtMostOnce fields "operatingState" (IsCase OperatingState.label) .unknown
    device.operatingState
  labels : AtMostOnce fields "labels" IsTexts [] device.labels
  protocols : AtMostOnce fields "protocols" (IsMap (IsMap IsText)) ∅ device.protocols
  created : AtMostOnce fields "created" IsInteger 0 device.created
  modified : AtMostOnce fields "modified" IsInteger 0 device.modified

/-- A device is read from an object exactly when the names of all members are texts and the members
describe the device. -/
theorem ofJson?_object_iff {members : List (Lexeme × Json)} {device : Device} :
    ofJson? (.object members) = some device ↔
      ∃ fields, (Json.object members).HasFields fields ∧ Describes fields device := by
  have fields_iff (fields : List (String × Json)) :
      (Json.object members).fields? fieldNames = some fields ↔
        (Json.object members).HasFields fields := by
    rw [fields?, members?_eq_some_iff]
    nofun
  have text (json : Json) (text : String) := @text?_eq_some_iff json text
  have texts (json : Json) (texts : List String) := @texts?_eq_some_iff json texts
  have integer (json : Json) (number : Int64) := @int64?_eq_some_iff json number
  have table (json : Json) (table : Text.Map String) := @mapOf?_eq_some_iff _ _ _ text json table
  have tables (json : Json) (tables : Protocols) := @mapOf?_eq_some_iff _ _ _ table json tables
  have adminState := @caseOf?_eq_some_iff _ _ AdminState.ofLabel?
    (find?_label_eq_some_iff ofLabel?_label_adminState)
  have operatingState := @caseOf?_eq_some_iff _ _ OperatingState.ofLabel?
    (find?_label_eq_some_iff ofLabel?_label_operatingState)
  simp only [ofJson?, Option.bind_eq_bind, Option.bind_eq_some_iff, Option.pure_def,
    Option.some.injEq, fields_iff, required?_eq_some_iff text, optional?_eq_some_iff text,
    optional?_eq_some_iff texts, optional?_eq_some_iff integer, optional?_eq_some_iff tables,
    optional?_eq_some_iff adminState, optional?_eq_some_iff operatingState]
  constructor
  · rintro ⟨fields, named, id, hasId, name, hasName, description, hasDescription, adminState,
      hasAdminState, operatingState, hasOperatingState, service, hasService, profile, hasProfile,
      labels, hasLabels, protocols, hasProtocols, created, hasCreated, modified, hasModified, rfl⟩
    exact ⟨fields, named, hasId, hasName, hasService, hasProfile, hasDescription, hasAdminState,
      hasOperatingState, hasLabels, hasProtocols, hasCreated, hasModified⟩
  · rintro ⟨fields, named, describes⟩
    exact ⟨fields, named, _, describes.id, _, describes.name, _, describes.description, _,
      describes.adminState, _, describes.operatingState, _, describes.service, _,
      describes.profile, _, describes.labels, _, describes.protocols, _, describes.created, _,
      describes.modified, rfl⟩

/-- Only the fields that a record has matter, and not in which order they come. -/
theorem Describes.of_perm {fields others : List (String × Json)} {device : Device}
    (describes : Describes fields device)
    (same : (fields.filter (·.1 ∈ fieldNames)).Perm (others.filter (·.1 ∈ fieldNames))) :
    Describes others device where
  id := describes.id.of_perm (by decide) same
  name := describes.name.of_perm (by decide) same
  service := describes.service.of_perm (by decide) same
  profile := describes.profile.of_perm (by decide) same
  description := describes.description.of_perm (by decide) same
  adminState := describes.adminState.of_perm (by decide) same
  operatingState := describes.operatingState.of_perm (by decide) same
  labels := describes.labels.of_perm (by decide) same
  protocols := describes.protocols.of_perm (by decide) same
  created := describes.created.of_perm (by decide) same
  modified := describes.modified.of_perm (by decide) same

theorem decode_eq_ok_iff {text : Bytes} {device : Device} :
    decode text = .ok device ↔ ∃ json : Json, json.Spells text ∧ ofJson? json = some device := by
  simp only [← read?_eq_some_iff, ← Option.bind_eq_some_iff, decode, Option.bind_eq_bind]
  cases (read? text).bind ofJson? with
  | none => simp
  | some found => simp

/-- There is one failure of a text that is not read. -/
theorem decode_of_ne_ok {text : Bytes} (refused : ∀ device, decode text ≠ .ok device) :
    decode text = .error (.contractInvalid "unable to JSON unmarshal device" .malformedJson) := by
  rw [decode] at refused ⊢
  split at refused
  next device _ => exact absurd rfl (refused device)
  next => rfl

theorem decode_object_iff {text : Bytes} {members : List (Lexeme × Json)}
    (spells : (Json.object members).Spells text) {device : Device} :
    decode text = .ok device ↔
      ∃ fields, (Json.object members).HasFields fields ∧ Describes fields device := by
  rw [decode_eq_ok_iff, ← ofJson?_object_iff]
  constructor
  · rintro ⟨json, other, read⟩
    rwa [Option.some.inj ((read?_eq_some_iff.2 spells).symm.trans (read?_eq_some_iff.2 other))]
  · exact fun read => ⟨_, spells, read⟩

/-- What is read of an object is told by its fields that a record has, in whatever order. -/
theorem decode_of_perm {text other : Bytes} {members others : List (Lexeme × Json)}
    {fields otherFields : List (String × Json)} (spells : (Json.object members).Spells text)
    (otherSpells : (Json.object others).Spells other)
    (has : (Json.object members).HasFields fields)
    (otherHas : (Json.object others).HasFields otherFields)
    (same : (fields.filter (·.1 ∈ fieldNames)).Perm (otherFields.filter (·.1 ∈ fieldNames)))
    {device : Device} (read : decode text = .ok device) : decode other = .ok device := by
  obtain ⟨known, hasKnown, describes⟩ := (decode_object_iff spells).1 read
  obtain rfl : fields = known := Option.some.inj
    ((members?_eq_some_iff.2 has).symm.trans (members?_eq_some_iff.2 hasKnown))
  exact (decode_object_iff otherSpells).2 ⟨otherFields, otherHas, describes.of_perm same⟩

/-- Every JSON text of an object is read as the device that its fields describe, and if they describe no
device, or if the name of a member is no text, it fails. Neither the order of the members nor members with
names that a record does not have make a difference. -/
theorem decode_object {text : Bytes} {members : List (Lexeme × Json)}
    (spells : (Json.object members).Spells text) :
    (∀ device, decode text = .ok device ↔
      ∃ fields, (Json.object members).HasFields fields ∧ Describes fields device) ∧
    ((∀ device fields, (Json.object members).HasFields fields → ¬ Describes fields device) →
      decode text = .error (.contractInvalid "unable to JSON unmarshal device" .malformedJson)) ∧
    ∀ fields other others otherFields, (Json.object others).Spells other →
      (Json.object members).HasFields fields → (Json.object others).HasFields otherFields →
      (fields.filter (·.1 ∈ fieldNames)).Perm (otherFields.filter (·.1 ∈ fieldNames)) →
      decode other = decode text := by
  refine ⟨fun device => decode_object_iff spells, fun nothing => ?_,
    fun fields other others otherFields otherSpells has otherHas same => ?_⟩
  · refine decode_of_ne_ok fun device read => ?_
    obtain ⟨fields, has, describes⟩ := (decode_object_iff spells).1 read
    exact nothing device fields has describes
  · have agree (device : Device) : decode text = .ok device ↔ decode other = .ok device :=
      ⟨decode_of_perm spells otherSpells has otherHas same,
        decode_of_perm otherSpells spells otherHas has same.symm⟩
    by_cases described : ∃ device, decode text = .ok device
    · obtain ⟨device, read⟩ := described
      rw [read, (agree device).1 read]
    · have refused (device : Device) : decode text ≠ .ok device :=
        fun read => described ⟨device, read⟩
      have otherRefused (device : Device) : decode other ≠ .ok device :=
        fun read => refused device ((agree device).2 read)
      rw [decode_of_ne_ok refused, decode_of_ne_ok otherRefused]

/-- A record with blanks, escapes and a nested member that is not known, and the same record without this
member and in the reverse order. -/
theorem decode_object_foreign :
    let text := Bytes.ofText (" \x7b\"x\": [-0.5E+1, \x7b\"id\": null\x7d], \"n\\u0061me\":\"n\",\n" ++
      "\"serviceName\":\"s\", \"profileName\":\"p\", \"id\":\"\\ud83d\\ude00\", " ++
      "\"adminState\":\x7b\"LOCKED\":null\x7d, \"created\":-12 \x7d ")
    let other := Bytes.ofText ("\x7b\"created\":-12,\"adminState\":\x7b\"LOCKED\":null\x7d," ++
      "\"id\":\"\\ud83d\\ude00\",\"profileName\":\"p\",\"serviceName\":\"s\",\"name\":\"n\"\x7d")
    let device := { Device.plain (String.singleton (Char.ofNat 0x1F600)) "n" "s" "p" with
      adminState := .locked, created := -12 }
    (∃ members others fields otherFields, (Json.object members).Spells text ∧
      (Json.object others).Spells other ∧ (Json.object members).HasFields fields ∧
      (Json.object others).HasFields otherFields ∧ fields.length = otherFields.length + 1 ∧
      (fields.filter (·.1 ∈ fieldNames)).Perm (otherFields.filter (·.1 ∈ fieldNames))) ∧
    decode text = .ok device ∧ decode other = .ok device := by
  intro text other device
  let unknown : Json :=
    .array [.number (Bytes.ofText "-0.5E+1"), .object [(Lexeme.ofText "id", .null)]]
  let known : List (String × Json) :=
    [("name", textJson "n"), ("serviceName", textJson "s"), ("profileName", textJson "p"),
      ("id", .text [.unit 0xD83D, .unit 0xDE00]),
      ("adminState", .object [(Lexeme.ofText "LOCKED", .null)]),
      ("created", .number (Bytes.ofText "-12"))]
  let escaped : Lexeme := [.byte 110, .unit 97, .byte 109, .byte 101]
  let plain (field : String × Json) : Lexeme × Json := (Lexeme.ofText field.1, field.2)
  let members := plain ("x", unknown) :: (escaped, textJson "n") :: known.tail.map plain
  let others := known.reverse.map plain
  have spells : (Json.object members).Spells text := by
    have scanned : Token.read? text = some (Json.object members).tokens := by decide +kernel
    have assembled : ofTokens? (Json.object members).tokens = some (.object members) := by rfl
    refine read?_eq_some_iff.1 ?_
    rw [read?, scanned]
    exact assembled
  have otherSpells : (Json.object others).Spells other := by
    have scanned : Token.read? other = some (Json.object others).tokens := by decide +kernel
    have assembled : ofTokens? (Json.object others).tokens = some (.object others) := by rfl
    refine read?_eq_some_iff.1 ?_
    rw [read?, scanned]
    exact assembled
  have has : (Json.object members).HasFields (("x", unknown) :: known) :=
    members?_eq_some_iff.1 (by rfl)
  have otherHas : (Json.object others).HasFields known.reverse := members?_eq_some_iff.1 (by rfl)
  have same : ((("x", unknown) :: known).filter (·.1 ∈ fieldNames)).Perm
      (known.reverse.filter (·.1 ∈ fieldNames)) := known.reverse_perm.symm
  obtain ⟨reads, _, agrees⟩ := decode_object spells
  have read : decode text = .ok device :=
    (reads device).2 (ofJson?_object_iff.1 (by rfl))
  exact ⟨⟨members, others, _, _, spells, otherSpells, has, otherHas, by rfl, same⟩, read,
    (agrees _ other others _ otherSpells has otherHas same).trans read⟩

end DeviceCatalog.Device
