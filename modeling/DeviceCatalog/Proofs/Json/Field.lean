import DeviceCatalog.Json.Field
import DeviceCatalog.Proofs.Json.Number
import Mathlib.Data.List.Forall2
import Mathlib.Data.List.Nodup

/-!
# Values of a type

What it is for a JSON value to be a string with a certain text, an integer, an array of strings or an
object of values of one kind, and for an object to have a member of a name once. All of this is said of
the value as it stands, and each reader finds exactly what is so.
-/

namespace DeviceCatalog

/-- Bytes are read as the text that they are the encoding of. -/
theorem Bytes.text?_eq_some_iff {bytes : Bytes} {text : String} :
    Bytes.text? bytes = some text ↔ bytes = Bytes.ofText text := by
  constructor
  · intro read
    rw [Bytes.text?, String.fromUTF8?] at read
    split at read
    next valid =>
      cases read
      rfl
    next => cases read
  · rintro rfl
    exact Bytes.text?_ofText text

/-- The map after entries are inserted one after another. -/
def Text.Map.insertAll {value : Type} (map : Text.Map value) (entries : List (String × value)) :
    Text.Map value :=
  entries.foldl (fun map entry => map.insert entry.1 entry.2) map

/-- The last entry of a name is the one that counts. -/
theorem Text.Map.lookup_insertAll {value : Type} (map : Text.Map value)
    (entries : List (String × value)) (name : String) :
    (map.insertAll entries)[name]? = (entries.reverse.lookup name).or map[name]? := by
  induction entries generalizing map with
  | nil => rfl
  | cons entry rest ih =>
      have inserted := ih (map.insert entry.1 entry.2)
      rw [insertAll, List.foldl_cons, ← insertAll, inserted, Text.Map.lookup_insert,
        List.reverse_cons, List.lookup_append, Option.or_assoc, List.lookup_cons, List.lookup_nil]
      congr 1
      by_cases same : entry.1 = name
      · simp [same]
      · have other : (name == entry.1) = false := beq_eq_false_iff_ne.2 (Ne.symm same)
        simp [same, other]

namespace Json

/-! ## Strings -/

/-- The bytes that the pieces of a string stand for. A byte stands for itself and a code unit for its
character. Two halves of a surrogate pair, one after the other, stand for one character. -/
inductive Lexeme.Denotes : Lexeme → Bytes → Prop
  | nil : Denotes [] []
  | byte {value : UInt8} {rest : Lexeme} {bytes : Bytes} (remaining : Denotes rest bytes) :
      Denotes (.byte value :: rest) (value :: bytes)
  | unit {code : Nat} {rest : Lexeme} {bytes : Bytes} (notHigh : isHighSurrogate code = false)
      (notLow : isLowSurrogate code = false) (remaining : Denotes rest bytes) :
      Denotes (.unit code :: rest) (bytesOfCode code ++ bytes)
  | pair {high low : Nat} {rest : Lexeme} {bytes : Bytes} (first : isHighSurrogate high = true)
      (second : isLowSurrogate low = true) (remaining : Denotes rest bytes) :
      Denotes (.unit high :: .unit low :: rest) (bytesOfCode (joinSurrogates high low) ++ bytes)

theorem Lexeme.denotes_of_bytes? {lexeme : Lexeme} {bytes : Bytes}
    (read : lexeme.bytes? = some bytes) : lexeme.Denotes bytes := by
  fun_induction Lexeme.bytes? lexeme generalizing bytes with
  | case1 =>
      cases read
      exact .nil
  | case2 value rest ih =>
      obtain ⟨others, remaining, rfl⟩ := Option.map_eq_some_iff.1 read
      exact .byte (ih remaining)
  | case3 high low rest first second ih =>
      obtain ⟨others, remaining, rfl⟩ := Option.map_eq_some_iff.1 read
      exact .pair first second (ih remaining)
  | case4 => cases read
  | case5 => cases read
  | case6 high low rest notHigh notLow ih =>
      obtain ⟨others, remaining, rfl⟩ := Option.map_eq_some_iff.1 read
      exact .unit (by simpa using notHigh) (by simpa using notLow) (ih remaining)
  | case7 => cases read
  | case8 code rest alone whole ih =>
      obtain ⟨others, remaining, rfl⟩ := Option.map_eq_some_iff.1 read
      simp only [Bool.or_eq_true, not_or, Bool.not_eq_true] at whole
      exact .unit whole.1 whole.2 (ih remaining)

theorem Lexeme.bytes?_eq_some_iff {lexeme : Lexeme} {bytes : Bytes} :
    lexeme.bytes? = some bytes ↔ lexeme.Denotes bytes := by
  refine ⟨denotes_of_bytes?, fun denotes => ?_⟩
  induction denotes with
  | nil => rfl
  | byte _ ih => rw [bytes?, ih, Option.map_some]
  | unit notHigh notLow _ ih => rw [bytes?_unit notHigh notLow, ih, Option.map_some]
  | pair first second _ ih => rw [bytes?, if_pos first, if_pos second, ih, Option.map_some]

/-- The string holds the text. -/
def Lexeme.Holds (lexeme : Lexeme) (text : String) : Prop := lexeme.Denotes (Bytes.ofText text)

theorem Lexeme.text?_eq_some_iff {lexeme : Lexeme} {text : String} :
    lexeme.text? = some text ↔ lexeme.Holds text := by
  simp only [Lexeme.text?, Option.bind_eq_bind, Option.bind_eq_some_iff, Bytes.text?_eq_some_iff,
    exists_eq_right, Lexeme.bytes?_eq_some_iff, Lexeme.Holds]

/-- A string that holds the text. -/
def IsText (json : Json) (text : String) : Prop := ∃ lexeme, json = .text lexeme ∧ lexeme.Holds text

theorem text?_eq_some_iff {json : Json} {text : String} :
    json.text? = some text ↔ json.IsText text := by
  cases json with
  | text lexeme =>
      rw [text?, Lexeme.text?_eq_some_iff]
      exact ⟨fun holds => ⟨lexeme, rfl, holds⟩, fun ⟨_, same, holds⟩ => Json.text.inj same ▸ holds⟩
  | _ => exact ⟨nofun, nofun⟩

/-! ## Integers -/

/-- The integer, in decimal digits. -/
def IsInteger (json : Json) (number : Int64) : Prop := json = .number (Number.ofInt64 number)

theorem int64?_eq_some_iff {json : Json} {number : Int64} :
    json.int64? = some number ↔ json.IsInteger number := by
  cases json with
  | number lexeme =>
      rw [int64?, Number.int64?_eq_some_iff, IsInteger, Json.number.injEq]
  | _ => exact ⟨nofun, nofun⟩

/-! ## Arrays and objects -/

/-- Every value of a list is read when the results are those of the values, one for one. -/
theorem mapM_eq_some_iff {source result : Type} {read? : source → Option result}
    {is : source → result → Prop} (reads : ∀ value found, read? value = some found ↔ is value found)
    {values : List source} {results : List result} :
    values.mapM read? = some results ↔ List.Forall₂ is values results := by
  induction values generalizing results with
  | nil =>
      rw [List.forall₂_nil_left_iff, List.mapM_nil]
      exact ⟨fun found => (Option.some.inj found).symm, fun found => congrArg some found.symm⟩
  | cons value rest ih =>
      rw [List.forall₂_cons_left_iff, List.mapM_cons]
      simp only [Option.bind_eq_bind, Option.bind_eq_some_iff, Option.pure_def, Option.some.injEq,
        reads, ih]
      constructor
      · rintro ⟨first, read, others, found, rfl⟩
        exact ⟨first, others, read, found, rfl⟩
      · rintro ⟨first, others, read, found, rfl⟩
        exact ⟨first, read, others, found, rfl⟩

/-- An array of strings that hold the texts. -/
def IsTexts (json : Json) (texts : List String) : Prop :=
  ∃ elements, json = .array elements ∧ List.Forall₂ IsText elements texts

theorem texts?_eq_some_iff {json : Json} {texts : List String} :
    json.texts? = some texts ↔ json.IsTexts texts := by
  cases json with
  | array elements =>
      rw [texts?, mapM_eq_some_iff fun _ _ => text?_eq_some_iff]
      exact ⟨fun each => ⟨elements, rfl, each⟩, fun ⟨_, same, each⟩ => array.inj same ▸ each⟩
  | _ => exact ⟨nofun, nofun⟩

/-- The member has the name and the value of the field. -/
def Names (member : Lexeme × Json) (field : String × Json) : Prop :=
  member.1.Holds field.1 ∧ member.2 = field.2

/-- An object with these fields, in their order. -/
def HasFields (json : Json) (fields : List (String × Json)) : Prop :=
  ∃ members, json = .object members ∧ List.Forall₂ Names members fields

theorem members?_eq_some_iff {json : Json} {fields : List (String × Json)} :
    json.members? = some fields ↔ json.HasFields fields := by
  have named (member : Lexeme × Json) (field : String × Json) :
      (do return (← member.1.text?, member.2)) = some field ↔ Names member field := by
    simp only [Option.bind_eq_bind, Option.bind_eq_some_iff, Lexeme.text?_eq_some_iff,
      Option.pure_def, Option.some.injEq, Names]
    constructor
    · rintro ⟨name, holds, rfl⟩
      exact ⟨holds, rfl⟩
    · rintro ⟨holds, same⟩
      exact ⟨field.1, holds, by rw [same]⟩
  cases json with
  | object members =>
      rw [members?, mapM_eq_some_iff named]
      exact ⟨fun each => ⟨members, rfl, each⟩, fun ⟨_, same, each⟩ => object.inj same ▸ each⟩
  | _ => exact ⟨nofun, nofun⟩

/-- The values of the entries are what the fields hold, one for one and under the same names. -/
def Entries {value : Type} (is : Json → value → Prop) (fields : List (String × Json))
    (entries : List (String × value)) : Prop :=
  List.Forall₂ (fun field entry => field.1 = entry.1 ∧ is field.2 entry.2) fields entries

/-- An object whose fields make up the map. Of a repeated name the last value counts. -/
def IsMap {value : Type} (is : Json → value → Prop) (json : Json) (map : Text.Map value) : Prop :=
  ∃ fields entries, json.HasFields fields ∧ Entries is fields entries ∧
    ∀ name, map[name]? = entries.reverse.lookup name

variable {value : Type} {read? : Json → Option value} {is : Json → value → Prop}

theorem foldlM_insert_eq_some_iff (reads : ∀ json found, read? json = some found ↔ is json found)
    {fields : List (String × Json)} {before after : Text.Map value} :
    (fields.foldlM (fun (map : Text.Map value) member => do
        return map.insert member.1 (← read? member.2)) before : Option (Text.Map value)) =
        some after ↔
      ∃ entries, Entries is fields entries ∧
        after = before.insertAll entries := by
  induction fields generalizing before with
  | nil =>
      simp only [Entries, List.forall₂_nil_left_iff, exists_eq_left]
      exact ⟨fun same => (Option.some.inj same).symm, fun same => congrArg some same.symm⟩
  | cons field rest ih =>
      simp only [List.foldlM_cons, Option.bind_eq_bind, Option.bind_eq_some_iff, Option.pure_def,
        Option.some.injEq, reads]
      constructor
      · rintro ⟨_, ⟨found, read, rfl⟩, remaining⟩
        obtain ⟨entries, each, rfl⟩ := ih.1 remaining
        exact ⟨(field.1, found) :: entries, .cons ⟨rfl, read⟩ each, rfl⟩
      · rintro ⟨entries, each, rfl⟩
        obtain ⟨⟨name, found⟩, others, ⟨rfl, read⟩, remaining, rfl⟩ :=
          List.forall₂_cons_left_iff.1 each
        exact ⟨_, ⟨found, read, rfl⟩, ih.2 ⟨others, remaining, rfl⟩⟩

theorem mapOf?_eq_some_iff (reads : ∀ json found, read? json = some found ↔ is json found)
    {json : Json} {map : Text.Map value} :
    json.mapOf? read? = some map ↔ json.IsMap is map := by
  have lookup (entries : List (String × value)) (name : String) :
      ((∅ : Text.Map value).insertAll entries)[name]? = entries.reverse.lookup name := by
    simp [Text.Map.lookup_insertAll]
  simp only [mapOf?, Option.bind_eq_bind, Option.bind_eq_some_iff, members?_eq_some_iff, IsMap]
  constructor
  · rintro ⟨fields, has, read⟩
    obtain ⟨entries, each, rfl⟩ := (foldlM_insert_eq_some_iff reads).1 read
    exact ⟨fields, entries, has, each, lookup entries⟩
  · rintro ⟨fields, entries, has, each, same⟩
    refine ⟨fields, has, (foldlM_insert_eq_some_iff reads).2 ⟨entries, each, ?_⟩⟩
    apply Std.ExtTreeMap.ext_getElem?
    intro name
    rw [same, lookup]

/-! ## Names of cases -/

/-- The label of a case, or an object that has the label as the name of its only member, which is null. -/
def IsCase {case : Type} (label : case → String) (json : Json) (found : case) : Prop :=
  json.IsText (label found) ∨ ∃ key, json = .object [(key, .null)] ∧ key.Holds (label found)

theorem caseName?_eq_some_iff {json : Json} {name : String} :
    json.caseName? = some name ↔
      json.IsText name ∨ ∃ key, json = .object [(key, .null)] ∧ key.Holds name := by
  rw [caseName?.eq_def]
  split
  next lexeme =>
    rw [Lexeme.text?_eq_some_iff]
    constructor
    · exact fun holds => .inl ⟨lexeme, rfl, holds⟩
    · rintro (⟨_, same, holds⟩ | ⟨_, same, _⟩)
      · exact Json.text.inj same ▸ holds
      · cases same
  next key =>
    rw [Lexeme.text?_eq_some_iff]
    constructor
    · exact fun holds => .inr ⟨key, rfl, holds⟩
    · rintro (⟨_, same, _⟩ | ⟨_, same, holds⟩)
      · cases same
      · cases same
        exact holds
  next noText noObject =>
    refine iff_of_false nofun ?_
    rintro (⟨lexeme, same, _⟩ | ⟨key, same, _⟩)
    · exact noText lexeme same
    · exact noObject key same

/-! ## Fields -/

/-- Exactly one field has the name, and its value is of the kind. -/
def Once (fields : List (String × Json)) (name : String) (is : Json → value → Prop) (found : value) :
    Prop :=
  (fields.map Prod.fst).count name = 1 ∧ ∃ json, (name, json) ∈ fields ∧ is json found

/-- No field has the name and the value is the one for that case, or exactly one field has the name. -/
def AtMostOnce (fields : List (String × Json)) (name : String) (is : Json → value → Prop)
    (absent found : value) : Prop :=
  name ∉ fields.map Prod.fst ∧ found = absent ∨ Once fields name is found

variable {fields others : List (String × Json)} {name : String} {absent found : value}

theorem once_iff : Once fields name is found ↔
    ∃ json, fields.filter (·.1 == name) = [(name, json)] ∧ is json found := by
  have count : (fields.map Prod.fst).count name = (fields.filter (·.1 == name)).length := by
    rw [List.count_eq_countP, List.countP_map, List.countP_eq_length_filter]
    rfl
  have listed (json : Json) : (name, json) ∈ fields ↔
      (name, json) ∈ fields.filter (·.1 == name) := by
    simp [List.mem_filter]
  simp only [Once, count, listed]
  constructor
  · rintro ⟨single, json, member, kind⟩
    obtain ⟨field, only⟩ := List.length_eq_one_iff.1 single
    rw [only, List.mem_singleton] at member
    exact ⟨json, member ▸ only, kind⟩
  · rintro ⟨json, only, kind⟩
    rw [only]
    exact ⟨rfl, json, List.mem_singleton_self _, kind⟩

theorem Once.of_mem {json : Json} (distinct : (fields.map Prod.fst).Nodup)
    (listed : (name, json) ∈ fields) (kind : is json found) : Once fields name is found :=
  ⟨List.count_eq_one_of_mem distinct (List.mem_map_of_mem listed), json, listed, kind⟩

theorem not_mem_names_iff :
    name ∉ fields.map Prod.fst ↔ fields.filter (·.1 == name) = [] := by
  simp only [List.filter_eq_nil_iff, List.mem_map, not_exists, not_and, beq_iff_eq]

theorem field?_eq_some_some_iff (reads : ∀ json found, read? json = some found ↔ is json found) :
    field? fields name read? = some (some found) ↔ Once fields name is found := by
  rw [once_iff, field?]
  have named : ∀ field ∈ fields.filter (·.1 == name), field.1 = name := by simp [List.mem_filter]
  generalize fields.filter (·.1 == name) = matching at named
  cases matching with
  | nil => exact ⟨nofun, nofun⟩
  | cons field rest =>
      obtain ⟨other, json⟩ := field
      obtain rfl : other = name := named _ List.mem_cons_self
      cases rest with
      | nil =>
          simp only [Option.map_eq_some_iff, Option.some.injEq, exists_eq_right, reads,
            List.cons.injEq, Prod.mk.injEq, true_and, and_true, exists_eq_left']
      | cons next more => exact ⟨nofun, nofun⟩

theorem field?_eq_some_none_iff :
    field? fields name read? = some none ↔ name ∉ fields.map Prod.fst := by
  rw [not_mem_names_iff, field?]
  split
  next => simp [*]
  next => simp [*]
  next => simp_all

theorem required?_eq_some_iff (reads : ∀ json found, read? json = some found ↔ is json found) :
    required? fields name read? = some found ↔ Once fields name is found := by
  rw [← field?_eq_some_some_iff reads, required?]
  cases field? fields name read? with
  | none => exact ⟨nofun, nofun⟩
  | some held => rw [Option.some.injEq]

theorem optional?_eq_some_iff (reads : ∀ json found, read? json = some found ↔ is json found) :
    optional? fields name read? absent = some found ↔
      AtMostOnce fields name is absent found := by
  rw [AtMostOnce, ← field?_eq_some_some_iff reads, ← @field?_eq_some_none_iff _ read?, optional?]
  cases field? fields name read? with
  | none => simp
  | some held =>
      cases held with
      | none => simp [eq_comm]
      | some value => simp

/-! Only the fields of known names matter, and not in which order they come. -/

variable {known : List String}

theorem Once.of_perm (once : Once fields name is found) (listed : name ∈ known)
    (same : (fields.filter (·.1 ∈ known)).Perm (others.filter (·.1 ∈ known))) :
    Once others name is found := by
  obtain ⟨json, only, kind⟩ := once_iff.1 once
  have matching : (others.filter (·.1 == name)).Perm [(name, json)] := by
    have filtered (fields : List (String × Json)) :
        (fields.filter (·.1 ∈ known)).filter (·.1 == name) = fields.filter (·.1 == name) := by
      rw [List.filter_filter]
      refine List.filter_congr fun field _ => ?_
      by_cases named : field.1 = name <;> simp [named, listed]
    rw [← only, ← filtered fields, ← filtered others]
    exact (same.filter _).symm
  exact once_iff.2 ⟨json, List.perm_singleton.1 matching, kind⟩

theorem AtMostOnce.of_perm (once : AtMostOnce fields name is absent found) (listed : name ∈ known)
    (same : (fields.filter (·.1 ∈ known)).Perm (others.filter (·.1 ∈ known))) :
    AtMostOnce others name is absent found := by
  refine once.imp (fun ⟨unnamed, missing⟩ => ⟨fun named => unnamed ?_, missing⟩)
    fun once => once.of_perm listed same
  obtain ⟨field, member, rfl⟩ := List.mem_map.1 named
  have kept : field ∈ others.filter (·.1 ∈ known) := by simp [List.mem_filter, member, listed]
  exact List.mem_map_of_mem (List.mem_of_mem_filter (same.mem_iff.2 kept))

end Json

end DeviceCatalog
