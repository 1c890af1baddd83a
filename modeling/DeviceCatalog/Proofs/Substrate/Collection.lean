import DeviceCatalog.Substrate.Command
import DeviceCatalog.Substrate.Query

/-!
# Collections

A sorted set and a hash are two kinds of one thing: members, each with a value of its own, under a key
that is absent while there are none. Their commands are alike too. Each gives one member a value or takes
the member away, starts from no members where the key is absent, and leaves a value of another kind alone.
What follows from this alone is stated once, for any collection.
-/

namespace DeviceCatalog

namespace Entry

/-- Whether the value is a collection without members. No key ever holds one. -/
def isEmptyCollection : Entry → Bool
  | string _ => false
  | sortedSet set => set.isEmpty
  | hash fields => fields.isEmpty

/-- The sorted set that the value is, if it is one. -/
def sortedSet? : Entry → Option SortedSet
  | sortedSet set => some set
  | _ => none

/-- The fields of the hash that the value is, if it is one. -/
def hash? : Entry → Option (Text.Map String)
  | hash fields => some fields
  | _ => none

variable {entry : Entry}

/-- A collection is empty when it has no member. -/
theorem isEmptyCollection_iff (collection : entry.kind ≠ .string) :
    entry.isEmptyCollection = true ↔ ∀ member, entry.has member = false := by
  cases entry with
  | string value => exact absurd rfl collection
  | sortedSet set =>
      simp only [isEmptyCollection, has, SortedSet.isEmpty, SortedSet.score?,
        ← Std.ExtTreeMap.contains_eq_isSome_getElem?]
      rw [Std.ExtTreeMap.isEmpty_iff, Std.ExtTreeMap.eq_empty_iff_forall_contains]
  | hash fields =>
      simp only [isEmptyCollection, has]
      rw [Std.ExtTreeMap.isEmpty_iff, Std.ExtTreeMap.eq_empty_iff_forall_contains]

/-- A collection is empty when it counts no member. -/
theorem isEmptyCollection_eq (collection : entry.kind ≠ .string) :
    entry.isEmptyCollection = (entry.size == 0) := by
  cases entry with
  | string value => exact absurd rfl collection
  | sortedSet set => exact set.isEmpty_eq
  | hash fields => exact Std.ExtTreeMap.isEmpty_eq_size_beq_zero

end Entry

/-- A command leaves a value of another kind than it needs alone. -/
theorem Command.effect_of_kind_ne {command : Command} {needed : Kind} {held : Entry}
    (needs : command.needs = some needed) (different : held.kind ≠ needed) :
    command.effect (some held) = some held := by
  cases command with
  | set key value | del key => cases needs
  | zadd key score member | zrem key member =>
      cases needs
      cases held with
      | sortedSet set => exact absurd rfl different
      | string value | hash fields => rfl
  | hset key field value | hdel key field =>
      cases needs
      cases held with
      | hash fields => exact absurd rfl different
      | string value | sortedSet set => rfl

/-- A kind of value that is made up of members, each with a value of its own. -/
structure Collection (contents value : Type) where
  kind : Kind
  /-- The contents as the value of a key. -/
  entry : contents → Entry
  /-- The contents of a value, if the value is of this kind. -/
  contents? : Entry → Option contents
  /-- What an absent key stands for. -/
  empty : contents
  lookup : contents → String → Option value
  contents?_eq_some_iff : ∀ {held found}, contents? held = some found ↔ held = entry found
  contents?_eq_none_iff : ∀ {held}, contents? held = none ↔ held.kind ≠ kind
  kind_ne_string : kind ≠ .string
  has_entry : ∀ found member, (entry found).has member = (lookup found member).isSome
  lookup_empty : ∀ member, lookup empty member = none
  /-- Contents are known from what is looked up in them. -/
  ext_lookup : ∀ {left right}, (∀ member, lookup left member = lookup right member) → left = right

namespace Collection

/-- Sorted sets, as members with scores. -/
def ranked : Collection SortedSet Score where
  kind := .sortedSet
  entry := .sortedSet
  contents? := Entry.sortedSet?
  empty := .empty
  lookup := SortedSet.score?
  contents?_eq_some_iff {held} _ := by cases held <;> simp [Entry.sortedSet?]
  contents?_eq_none_iff {held} := by cases held <;> simp [Entry.sortedSet?, Entry.kind]
  kind_ne_string := by simp
  has_entry _ _ := rfl
  lookup_empty := SortedSet.score?_empty
  ext_lookup := SortedSet.ext_score?

/-- Hashes, as fields with texts. -/
def tabled : Collection (Text.Map String) String where
  kind := .hash
  entry := .hash
  contents? := Entry.hash?
  empty := ∅
  lookup fields field := fields[field]?
  contents?_eq_some_iff {held} _ := by cases held <;> simp [Entry.hash?]
  contents?_eq_none_iff {held} := by cases held <;> simp [Entry.hash?, Entry.kind]
  kind_ne_string := by simp
  has_entry fields field := Std.ExtTreeMap.contains_eq_isSome_getElem?
  lookup_empty field := by simp
  ext_lookup := Std.ExtTreeMap.ext_getElem?

variable {contents value : Type} (collection : Collection contents value)

/-- What there is to change under a key: an absent key stands for no members, and a value of another
kind for nothing at all. -/
def found? : Option Entry → Option contents
  | none => some collection.empty
  | some held => collection.contents? held

/-- How contents stand under a key. -/
def stored (found : contents) : Option Entry :=
  if (collection.entry found).isEmptyCollection then none else some (collection.entry found)

/-- The contents under a key. -/
def read (space : KeySpace) (key : String) : Except StorageError contents :=
  match space[key]? with
  | none => .ok collection.empty
  | some held =>
    match collection.contents? held with
    | some found => .ok found
    | none => .error (.wrongType key collection.kind held.kind)

/-- Puts contents under a key; there is no key for empty ones. -/
def put (space : KeySpace) (key : String) (found : contents) : KeySpace :=
  if (collection.entry found).isEmptyCollection then space.erase key
  else space.insert key (collection.entry found)

theorem ranked_read (space : KeySpace) (key : String) :
    ranked.read space key = space.sortedSet key := by
  rw [read, KeySpace.sortedSet]
  cases space[key]? with
  | none => rfl
  | some held => cases held <;> rfl

theorem tabled_read (space : KeySpace) (key : String) :
    tabled.read space key = space.hash key := by
  rw [read, KeySpace.hash]
  cases space[key]? with
  | none => rfl
  | some held => cases held <;> rfl

section

variable {collection} {found : contents} {before : Option Entry}

@[simp] theorem contents?_entry : collection.contents? (collection.entry found) = some found :=
  collection.contents?_eq_some_iff.2 rfl

@[simp] theorem kind_entry : (collection.entry found).kind = collection.kind := by
  apply Classical.byContradiction
  intro different
  have missing := collection.contents?_eq_none_iff.2 different
  rw [contents?_entry] at missing
  cases missing

theorem isEmptyCollection_entry :
    (collection.entry found).isEmptyCollection = true ↔ found = collection.empty := by
  rw [Entry.isEmptyCollection_iff (kind_entry ▸ collection.kind_ne_string)]
  simp only [collection.has_entry, Option.isSome_eq_false_iff, Option.isNone_iff_eq_none]
  constructor
  · intro vacant
    apply collection.ext_lookup
    intro member
    rw [vacant, collection.lookup_empty]
  · rintro rfl
    exact collection.lookup_empty

theorem stored_empty : collection.stored collection.empty = none :=
  if_pos (isEmptyCollection_entry.2 rfl)

theorem stored_of_ne (occupied : found ≠ collection.empty) :
    collection.stored found = some (collection.entry found) :=
  if_neg (mt isEmptyCollection_entry.1 occupied)

theorem stored_of_lookup {member : String} {held : value}
    (present : collection.lookup found member = some held) :
    collection.stored found = some (collection.entry found) := by
  apply stored_of_ne
  rintro rfl
  rw [collection.lookup_empty] at present
  cases present

/-- What is stored is found again. -/
@[simp] theorem found?_stored : collection.found? (collection.stored found) = some found := by
  by_cases vacant : found = collection.empty
  · rw [vacant, stored_empty, found?]
  · rw [stored_of_ne vacant, found?, contents?_entry]

theorem found?_eq_some_iff :
    collection.found? before = some found ↔
      before = none ∧ found = collection.empty ∨ before = some (collection.entry found) := by
  cases before with
  | none => simp [found?, eq_comm]
  | some held => simp [found?, collection.contents?_eq_some_iff]

theorem found?_eq_none_iff :
    collection.found? before = none ↔ ∃ held, before = some held ∧ held.kind ≠ collection.kind := by
  cases before with
  | none => simp [found?]
  | some held => simp [found?, collection.contents?_eq_none_iff]

theorem isEmptyCollection_of_stored {held : Entry} (present : collection.stored found = some held) :
    held.isEmptyCollection = false := by
  rw [stored] at present
  split at present
  next => cases present
  next occupied =>
    cases present
    exact Bool.eq_false_iff.2 occupied

/-- What is found is what is stored, unless an empty collection is. -/
theorem stored_of_found (reached : collection.found? before = some found)
    (inhabited : ∀ held, before = some held → held.isEmptyCollection = false) :
    collection.stored found = before := by
  rcases found?_eq_some_iff.1 reached with ⟨rfl, rfl⟩ | rfl
  · exact stored_empty
  · exact if_neg (Bool.eq_false_iff.1 (inhabited _ rfl))

/-- Where something is looked up, a key is there. -/
theorem eq_entry_of_lookup {member : String} {held : value}
    (reached : collection.found? before = some found)
    (present : collection.lookup found member = some held) :
    before = some (collection.entry found) := by
  rcases found?_eq_some_iff.1 reached with ⟨rfl, rfl⟩ | there
  · rw [collection.lookup_empty] at present
    cases present
  · exact there

theorem read_of_found {space : KeySpace} {key : String}
    (present : collection.found? space[key]? = some found) : collection.read space key = .ok found := by
  rw [read]
  rcases found?_eq_some_iff.1 present with ⟨vacant, rfl⟩ | held
  · rw [vacant]
  · simp only [held, contents?_entry]

theorem read_of_kind_ne {space : KeySpace} {key : String} {held : Entry}
    (present : space[key]? = some held) (different : held.kind ≠ collection.kind) :
    collection.read space key = .error (.wrongType key collection.kind held.kind) := by
  simp only [read, present, collection.contents?_eq_none_iff.2 different]

theorem getElem?_put (space : KeySpace) (key other : String) :
    (collection.put space key found)[other]? =
      if key = other then collection.stored found else space[other]? := by
  rw [put, stored]
  split
  · exact Text.Map.lookup_erase space key other
  · exact Text.Map.lookup_insert space key other (collection.entry found)

theorem size_of_found (present : collection.found? before = some found) :
    (before.map Entry.size).getD 0 = (collection.entry found).size := by
  rcases found?_eq_some_iff.1 present with ⟨rfl, rfl⟩ | rfl
  · have vacant := isEmptyCollection_entry.2 (rfl : collection.empty = _)
    rw [Entry.isEmptyCollection_eq (kind_entry ▸ collection.kind_ne_string)] at vacant
    exact (beq_iff_eq.1 vacant).symm
  · rfl

theorem has_of_found (present : collection.found? before = some found) (member : String) :
    (before.map (·.has member)).getD false = (collection.lookup found member).isSome := by
  rcases found?_eq_some_iff.1 present with ⟨rfl, rfl⟩ | rfl
  · rw [collection.lookup_empty]
    rfl
  · exact collection.has_entry found member

end

/-! ## Commands -/

/-- A command changes the contents under its key at one member, which is given a value or, without one,
is taken away. -/
structure Changes (command : Command) (member : String) (given : Option value)
    (change : contents → contents) : Prop where
  needs : command.needs = some collection.kind
  absent : command.effect none = collection.stored (change collection.empty)
  present : ∀ found, command.effect (some (collection.entry found)) = collection.stored (change found)
  lookup : ∀ found other, collection.lookup (change found) other =
    if member = other then given else collection.lookup found other
  size : ∀ found, (collection.entry (change found)).size =
    if (collection.lookup found member).isSome then
      if given.isSome then (collection.entry found).size else (collection.entry found).size - 1
    else if given.isSome then (collection.entry found).size + 1 else (collection.entry found).size

theorem changes_zadd (key : String) (score : Score) (member : String) :
    ranked.Changes (.zadd key score member) member (some score)
      fun set => (set.insert member score).2 where
  needs := rfl
  absent := by simp [Command.effect, stored, ranked, Entry.isEmptyCollection]
  present set := by simp [Command.effect, stored, ranked, Entry.isEmptyCollection]
  lookup set other := SortedSet.score?_insert set member other score
  size set := by simpa [ranked, Entry.size] using SortedSet.size_insert set member score

theorem changes_zrem (key member : String) :
    ranked.Changes (.zrem key member) member none fun set => (set.erase member).2 where
  needs := rfl
  absent := by
    rw [show (ranked.empty.erase member).2 = ranked.empty from
      SortedSet.erase_of_absent (SortedSet.score?_empty member), stored_empty]
    rfl
  present set := rfl
  lookup set other := SortedSet.score?_erase set member other
  size set := by simpa [ranked, Entry.size] using SortedSet.size_erase set member

theorem changes_hset (key field text : String) :
    tabled.Changes (.hset key field text) field (some text) fun fields => fields.insert field text where
  needs := rfl
  absent := by simp [Command.effect, stored, tabled, Entry.isEmptyCollection]
  present fields := by simp [Command.effect, stored, tabled, Entry.isEmptyCollection]
  lookup fields other := Text.Map.lookup_insert fields field other text
  size fields := by simpa [tabled, Entry.size] using! Std.ExtTreeMap.size_insert

theorem changes_hdel (key field : String) :
    tabled.Changes (.hdel key field) field none fun fields => fields.erase field where
  needs := rfl
  absent := by simp [Command.effect, stored, tabled, Entry.isEmptyCollection]
  present fields := rfl
  lookup fields other := Text.Map.lookup_erase fields field other
  size fields := by simpa [tabled, Entry.size] using! Std.ExtTreeMap.size_erase

namespace Changes

variable {collection} {command : Command} {member : String} {given : Option value}
  {change : contents → contents} {found : contents} {before : Option Entry}

theorem effect_of_found (changes : collection.Changes command member given change)
    (reached : collection.found? before = some found) :
    command.effect before = collection.stored (change found) := by
  rcases found?_eq_some_iff.1 reached with ⟨rfl, rfl⟩ | rfl
  · exact changes.absent
  · exact changes.present found

theorem effect_of_foreign (changes : collection.Changes command member given change)
    (foreign : collection.found? before = none) : command.effect before = before := by
  obtain ⟨held, rfl, different⟩ := found?_eq_none_iff.1 foreign
  exact Command.effect_of_kind_ne changes.needs different

/-- A change never leaves an empty collection behind. -/
theorem isEmptyCollection_effect (changes : collection.Changes command member given change)
    (inhabited : ∀ held, before = some held → held.isEmptyCollection = false) :
    ∀ held, command.effect before = some held → held.isEmptyCollection = false := by
  cases reached : collection.found? before with
  | none =>
      rw [changes.effect_of_foreign reached]
      exact inhabited
  | some found =>
      rw [changes.effect_of_found reached]
      exact fun held => isEmptyCollection_of_stored

/-- A change to what a member has already is none. -/
theorem change_eq_self (changes : collection.Changes command member given change)
    (settled : collection.lookup found member = given) : change found = found := by
  apply collection.ext_lookup
  intro other
  rw [changes.lookup]
  split
  next same => rw [← same, settled]
  next => rfl

theorem effect_of_settled {held : value}
    (changes : collection.Changes command member (some held) change)
    (settled : collection.lookup found member = some held) :
    command.effect (some (collection.entry found)) = some (collection.entry found) := by
  rw [changes.present, changes.change_eq_self settled, stored_of_lookup settled]

/-- Of two changes of one member the later one counts; the earlier one may have taken the key away with
its last member, and the later one then creates it anew. -/
theorem effect_effect {later : Command} {last : Option value} {settle : contents → contents}
    (settles : collection.Changes later member last settle)
    (changes : collection.Changes command member given change) (entry : Option Entry) :
    later.effect (command.effect entry) = later.effect entry := by
  cases reached : collection.found? entry with
  | none => rw [changes.effect_of_foreign reached]
  | some found =>
      have overwritten : settle (change found) = settle found := by
        apply collection.ext_lookup
        intro other
        rw [settles.lookup, settles.lookup, changes.lookup]
        split <;> rfl
      rw [changes.effect_of_found reached, settles.effect_of_found found?_stored, overwritten,
        settles.effect_of_found reached]

/-- A change of one member makes no difference to what a reader finds of another. -/
theorem map_lookup (changes : collection.Changes command member given change) {other : String}
    (apart : member ≠ other) {first second : KeySpace} {key : String}
    (changed : second[key]? = command.effect first[key]?) :
    (collection.read second key).map (collection.lookup · other) =
      (collection.read first key).map (collection.lookup · other) := by
  cases reached : collection.found? first[key]? with
  | none =>
      rw [changes.effect_of_foreign reached] at changed
      rw [read, read, changed]
  | some found =>
      rw [changes.effect_of_found reached] at changed
      have onward : collection.found? second[key]? = some (change found) := by
        rw [changed, found?_stored]
      rw [read_of_found reached, read_of_found onward]
      exact congrArg Except.ok ((changes.lookup found other).trans (if_neg apart))

end Changes

end Collection

end DeviceCatalog
