import DeviceCatalog.Proofs.Substrate.Collection

/-!
# Contents of collections

A sorted set and a hash are described by the relation that their pairs make up; a key without a value
stands for the empty relation, and nothing else does. Each command on a collection changes the
relation at one member, whatever the collection was.
-/

namespace DeviceCatalog

namespace Collection

variable {contents value : Type} (collection : Collection contents value)

/-- The value under a key is the collection of exactly these pairs. -/
def Holds (entry : Option Entry) (pairs : String → value → Prop) : Prop :=
  ∃ found, entry = collection.stored found ∧
    ∀ member held, collection.lookup found member = some held ↔ pairs member held

variable {collection} {entry : Option Entry} {pairs : String → value → Prop}

/-- A relation without pairs is held by no value at all, and any other one by a value of the kind. -/
theorem holds_iff :
    collection.Holds entry pairs ↔
      (entry = none ∧ ∀ member held, ¬ pairs member held) ∨
        ∃ found, entry = some (collection.entry found) ∧
          (collection.entry found).isEmptyCollection = false ∧
            ∀ member held, collection.lookup found member = some held ↔ pairs member held := by
  constructor
  · rintro ⟨found, rfl, same⟩
    by_cases vacant : found = collection.empty
    · subst vacant
      refine .inl ⟨stored_empty, fun member held => ?_⟩
      rw [← same, collection.lookup_empty]
      exact nofun
    · exact .inr ⟨found, stored_of_ne vacant,
        Bool.eq_false_iff.2 (mt isEmptyCollection_entry.1 vacant), same⟩
  · rintro (⟨rfl, vacant⟩ | ⟨found, rfl, occupied, same⟩)
    · refine ⟨collection.empty, stored_empty.symm, fun member held => ?_⟩
      rw [collection.lookup_empty]
      exact ⟨nofun, fun pair => absurd pair (vacant member held)⟩
    · exact ⟨found, (if_neg (Bool.eq_false_iff.1 occupied)).symm, same⟩

theorem Holds.congr {others : String → value → Prop} (holds : collection.Holds entry pairs)
    (same : ∀ member held, pairs member held ↔ others member held) :
    collection.Holds entry others := by
  obtain ⟨found, stored, pair⟩ := holds
  exact ⟨found, stored, fun member held => (pair member held).trans (same member held)⟩

/-- A command changes the relation at its member. -/
theorem Holds.effect (holds : collection.Holds entry pairs) {command : Command} {member : String}
    {given : Option value} {change : contents → contents}
    (changes : collection.Changes command member given change) :
    collection.Holds (command.effect entry)
      fun other held => if member = other then given = some held else pairs other held := by
  obtain ⟨found, rfl, pair⟩ := holds
  refine ⟨change found, changes.effect_of_found found?_stored, fun other held => ?_⟩
  rw [changes.lookup]
  by_cases same : member = other
  · simp [same]
  · simpa [same] using pair other held

/-- What a reader of the key finds. -/
theorem Holds.read {space : KeySpace} {key : String} (holds : collection.Holds space[key]? pairs) :
    ∃ found, collection.read space key = .ok found ∧
      ∀ member held, collection.lookup found member = some held ↔ pairs member held := by
  obtain ⟨found, stored, pair⟩ := holds
  exact ⟨found, read_of_found (stored ▸ found?_stored), pair⟩

theorem Holds.vacant_or_entry (holds : collection.Holds entry pairs) :
    entry = none ∨ ∃ found, entry = some (collection.entry found) := by
  rcases holds_iff.1 holds with ⟨vacant, -⟩ | ⟨found, there, -⟩
  · exact .inl vacant
  · exact .inr ⟨found, there⟩

/-- No key is stored where there is no pair. -/
theorem Holds.eq_none (holds : collection.Holds entry pairs)
    (vacant : ∀ member held, ¬ pairs member held) : entry = none := by
  obtain ⟨found, rfl, pair⟩ := holds
  have missing : found = collection.empty := by
    apply collection.ext_lookup
    intro member
    rw [collection.lookup_empty]
    exact Option.eq_none_iff_forall_ne_some.2 fun held there =>
      vacant member held ((pair member held).1 there)
  rw [missing, stored_empty]

/-- A collection that has a pair is there. -/
theorem Holds.exists_entry {member : String} {held : value} (holds : collection.Holds entry pairs)
    (pair : pairs member held) :
    ∃ found, entry = some (collection.entry found) ∧
      collection.lookup found member = some held := by
  obtain ⟨found, rfl, same⟩ := holds
  have there := (same member held).2 pair
  exact ⟨found, stored_of_lookup there, there⟩

theorem Holds.kind (holds : collection.Holds entry pairs) :
    entry.map Entry.kind = none ∨ entry.map Entry.kind = some collection.kind := by
  rcases holds.vacant_or_entry with rfl | ⟨found, rfl⟩
  · exact .inl rfl
  · exact .inr (congrArg some kind_entry)

end Collection

namespace Entry

/-- The value under a key is the sorted set of exactly these members and scores. -/
def Ranks : Option Entry → (String → Score → Prop) → Prop
  | none, pairs => ∀ member score, ¬ pairs member score
  | some (sortedSet set), pairs =>
      set.isEmpty = false ∧ ∀ member score, set.score? member = some score ↔ pairs member score
  | some _, _ => False

/-- The value under a key is the hash of exactly these fields and values. -/
def Tables : Option Entry → (String → String → Prop) → Prop
  | none, pairs => ∀ field value, ¬ pairs field value
  | some (hash fields), pairs =>
      fields.isEmpty = false ∧
        ∀ (field value : String), fields[field]? = some value ↔ pairs field value
  | some _, _ => False

variable {entry : Option Entry}

/-! ## Sorted sets -/

variable {pairs : String → Score → Prop}

theorem ranks_iff : Ranks entry pairs ↔ Collection.ranked.Holds entry pairs := by
  rw [Collection.holds_iff]
  cases entry with
  | none => simp [Ranks]
  | some held =>
      cases held with
      | sortedSet set => simp [Ranks, Collection.ranked, isEmptyCollection]
      | string value => simp [Ranks, Collection.ranked]
      | hash fields => simp [Ranks, Collection.ranked]

theorem ranks_none (vacant : ∀ member score, ¬ pairs member score) : Ranks none pairs := vacant

theorem Ranks.congr {others : String → Score → Prop} (ranks : Ranks entry pairs)
    (same : ∀ member score, pairs member score ↔ others member score) : Ranks entry others :=
  ranks_iff.2 ((ranks_iff.1 ranks).congr same)

theorem Ranks.zadd (ranks : Ranks entry pairs) (key member : String) (score : Score) :
    Ranks ((Command.zadd key score member).effect entry)
      fun other value => if member = other then value = score else pairs other value := by
  have changed := (ranks_iff.1 ranks).effect (Collection.changes_zadd key score member)
  exact ranks_iff.2 (changed.congr fun other value => by simp [eq_comm])

theorem Ranks.zrem (ranks : Ranks entry pairs) (key member : String) :
    Ranks ((Command.zrem key member).effect entry)
      fun other value => member ≠ other ∧ pairs other value := by
  have changed := (ranks_iff.1 ranks).effect (Collection.changes_zrem key member)
  exact ranks_iff.2 (changed.congr fun other value => by simp)

/-- What a reader of the key finds. -/
theorem Ranks.sortedSet {space : KeySpace} {key : String} (ranks : Ranks space[key]? pairs) :
    ∃ set, space.sortedSet key = .ok set ∧
      ∀ member score, set.score? member = some score ↔ pairs member score := by
  rw [← Collection.ranked_read]
  exact (ranks_iff.1 ranks).read

theorem Ranks.vacant_or_set (ranks : Ranks entry pairs) :
    entry = none ∨ ∃ set, entry = some (.sortedSet set) := (ranks_iff.1 ranks).vacant_or_entry

/-- No key is stored where there is nothing to rank. -/
theorem Ranks.eq_none (ranks : Ranks entry pairs)
    (vacant : ∀ member score, ¬ pairs member score) : entry = none :=
  (ranks_iff.1 ranks).eq_none vacant

/-- A set that has a pair is there. -/
theorem Ranks.exists_set {member : String} {score : Score} (ranks : Ranks entry pairs)
    (pair : pairs member score) :
    ∃ set, entry = some (.sortedSet set) ∧ set.score? member = some score :=
  (ranks_iff.1 ranks).exists_entry pair

theorem Ranks.kind (ranks : Ranks entry pairs) :
    entry.map Entry.kind = none ∨ entry.map Entry.kind = some .sortedSet :=
  (ranks_iff.1 ranks).kind

/-! ## Hashes -/

variable {cells : String → String → Prop}

theorem tables_iff : Tables entry cells ↔ Collection.tabled.Holds entry cells := by
  rw [Collection.holds_iff]
  cases entry with
  | none => simp [Tables]
  | some held =>
      cases held with
      | hash fields => simp [Tables, Collection.tabled, isEmptyCollection]
      | string value => simp [Tables, Collection.tabled]
      | sortedSet set => simp [Tables, Collection.tabled]

theorem tables_none (vacant : ∀ field value, ¬ cells field value) : Tables none cells := vacant

theorem Tables.congr {others : String → String → Prop} (tables : Tables entry cells)
    (same : ∀ field value, cells field value ↔ others field value) : Tables entry others :=
  tables_iff.2 ((tables_iff.1 tables).congr same)

theorem Tables.hset (tables : Tables entry cells) (key field value : String) :
    Tables ((Command.hset key field value).effect entry)
      fun other text => if field = other then text = value else cells other text := by
  have changed := (tables_iff.1 tables).effect (Collection.changes_hset key field value)
  exact tables_iff.2 (changed.congr fun other text => by simp [eq_comm])

theorem Tables.hdel (tables : Tables entry cells) (key field : String) :
    Tables ((Command.hdel key field).effect entry)
      fun other text => field ≠ other ∧ cells other text := by
  have changed := (tables_iff.1 tables).effect (Collection.changes_hdel key field)
  exact tables_iff.2 (changed.congr fun other text => by simp)

/-- What a reader of the key finds. -/
theorem Tables.hash {space : KeySpace} {key : String} (tables : Tables space[key]? cells) :
    ∃ fields, space.hash key = .ok fields ∧
      ∀ field value : String, fields[field]? = some value ↔ cells field value := by
  rw [← Collection.tabled_read]
  exact (tables_iff.1 tables).read

/-- A hash that has a pair is there. -/
theorem Tables.exists_hash {field value : String} (tables : Tables entry cells)
    (cell : cells field value) :
    ∃ fields, entry = some (.hash fields) ∧ fields[field]? = some value :=
  (tables_iff.1 tables).exists_entry cell

theorem Tables.kind (tables : Tables entry cells) :
    entry.map Entry.kind = none ∨ entry.map Entry.kind = some .hash := (tables_iff.1 tables).kind

end Entry

/-! ## Settled members -/

namespace Command

/-- A member that is removed and put back: the removal may take the key away with its last member, and
the addition then creates it anew. -/
theorem zadd_zrem (key member : String) (score : Score) (entry : Option Entry) :
    (zadd key score member).effect ((zrem key member).effect entry) =
      (zadd key score member).effect entry :=
  (Collection.changes_zadd key score member).effect_effect (Collection.changes_zrem key member) entry

theorem hset_hdel (key field value : String) (entry : Option Entry) :
    (hset key field value).effect ((hdel key field).effect entry) =
      (hset key field value).effect entry :=
  (Collection.changes_hset key field value).effect_effect (Collection.changes_hdel key field) entry

theorem zadd_of_present {set : SortedSet} {key member : String} {score : Score}
    (present : set.score? member = some score) :
    (zadd key score member).effect (some (.sortedSet set)) = some (.sortedSet set) :=
  (Collection.changes_zadd key score member).effect_of_settled present

theorem hset_of_present {fields : Text.Map String} {key field value : String}
    (present : fields[field]? = some value) :
    (hset key field value).effect (some (.hash fields)) = some (.hash fields) :=
  (Collection.changes_hset key field value).effect_of_settled present

end Command

end DeviceCatalog
