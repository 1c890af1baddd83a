import DeviceCatalog.Proofs.Substrate.Collection
import DeviceCatalog.Substrate.Admission

/-!
# What a projection says

A batch is admitted by looking at projections of its keys, while it is applied to the entries
themselves. The two stay in step: a projection that describes an entry goes on describing it through
every command that is not refused. The count of members is what makes this hold, since only the
count tells which removal empties a collection and so frees its key for a value of another kind.
-/

namespace DeviceCatalog

/-- Every key that is there holds something. -/
def KeySpace.NoEmptyCollection (space : KeySpace) : Prop :=
  ∀ (key : String) (entry : Entry), space[key]? = some entry → entry.isEmptyCollection = false

theorem KeySpace.noEmptyCollection_empty : (∅ : KeySpace).NoEmptyCollection := by
  intro key entry held
  simp at held

namespace Command

/-- The failure of a command against the value that its key holds. -/
def refusal? (command : Command) (entry : Option Entry) : Option StorageError :=
  match entry.map Entry.kind, command.needs with
  | some actual, some expected =>
    if actual = expected then none else some (.wrongType command.key expected actual)
  | _, _ => none

/-- A command that replaces or deletes the whole value is never refused. -/
theorem refusal?_of_needs_none {command : Command} (needless : command.needs = none)
    (entry : Option Entry) : command.refusal? entry = none := by
  rw [refusal?, needless]
  cases entry <;> rfl

/-- Nothing is refused on an absent key. -/
theorem refusal?_none (command : Command) : command.refusal? none = none := rfl

/-- A refusal names the key of the command, the kind it needs and the kind that is there. -/
theorem refusal?_eq_some_iff {command : Command} {entry : Option Entry} {failure : StorageError} :
    command.refusal? entry = some failure ↔
      ∃ actual expected, entry.map Entry.kind = some actual ∧ command.needs = some expected ∧
        actual ≠ expected ∧ failure = .wrongType command.key expected actual := by
  constructor
  · intro refused
    rw [refusal?] at refused
    split at refused
    next actual expected held needed =>
      split at refused
      next same => contradiction
      next different =>
        cases refused
        exact ⟨actual, expected, held, needed, different, rfl⟩
    next => contradiction
  · rintro ⟨actual, expected, held, needed, different, rfl⟩
    simp [refusal?, held, needed, different]

/-- A command never leaves an empty collection behind. -/
theorem effect_isEmptyCollection {command : Command} {before : Option Entry}
    (inhabited : ∀ entry, before = some entry → entry.isEmptyCollection = false) :
    ∀ entry, command.effect before = some entry → entry.isEmptyCollection = false := by
  cases command with
  | set key value =>
      intro entry result
      cases result
      rfl
  | del key => exact nofun
  | zadd key score member =>
      exact (Collection.changes_zadd key score member).isEmptyCollection_effect inhabited
  | zrem key member => exact (Collection.changes_zrem key member).isEmptyCollection_effect inhabited
  | hset key field value =>
      exact (Collection.changes_hset key field value).isEmptyCollection_effect inhabited
  | hdel key field => exact (Collection.changes_hdel key field).isEmptyCollection_effect inhabited

end Command

namespace Collection.Changes

variable {contents value : Type} {collection : Collection contents value} {command : Command}
  {member : String} {given : Option value} {change : contents → contents} {found : contents}
  {before : Option Entry}

theorem refusal?_of_found (changes : collection.Changes command member given change)
    (reached : collection.found? before = some found) : command.refusal? before = none := by
  rcases found?_eq_some_iff.1 reached with ⟨rfl, rfl⟩ | rfl
  · exact Command.refusal?_none command
  · simp [Command.refusal?, changes.needs]

theorem refusal?_of_kind_ne (changes : collection.Changes command member given change)
    {held : Entry} (different : held.kind ≠ collection.kind) :
    command.refusal? (some held) = some (.wrongType command.key collection.kind held.kind) :=
  Command.refusal?_eq_some_iff.2 ⟨_, _, rfl, changes.needs, different, rfl⟩

/-- A change that is not refused finds a collection of its kind, or an absent key. -/
theorem exists_found (changes : collection.Changes command member given change)
    (admitted : command.refusal? before = none) :
    ∃ found, collection.found? before = some found := by
  cases reached : collection.found? before with
  | some found => exact ⟨found, rfl⟩
  | none =>
      obtain ⟨held, rfl, different⟩ := found?_eq_none_iff.1 reached
      rw [changes.refusal?_of_kind_ne different] at admitted
      cases admitted

end Collection.Changes

namespace Projection

/-- A projection describes an entry when it has the kind, the count and the members of it; the
projection of an absent key has no kind, no count and no members. -/
structure Describes (projection : Projection) (entry : Option Entry) : Prop where
  kind : projection.kind = entry.map Entry.kind
  size : projection.size = (entry.map Entry.size).getD 0
  has : ∀ member, projection.has member = (entry.map (·.has member)).getD false

theorem describes_ofEntry (entry : Option Entry) : (ofEntry entry).Describes entry where
  kind := rfl
  size := rfl
  has member := by simp [Projection.has, ofEntry]

theorem describes_replaced_string (value : Bytes) :
    (replaced (some .string)).Describes (some (.string value)) where
  kind := rfl
  size := rfl
  has member := by simp [Projection.has, replaced, Entry.has]

theorem describes_replaced_none : (replaced none).Describes none where
  kind := rfl
  size := rfl
  has member := by simp [Projection.has, replaced]

/-- What the batch did to a member decides over what was there before. -/
theorem has_touched (projection : Projection) (kind : Option Kind) (size : Nat)
    (member other : String) (present : Bool) :
    Projection.has { projection with
        kind := kind, size := size, touched := projection.touched.insert member present } other =
      if member = other then present else projection.has other := by
  simp only [Projection.has]
  rw [Text.Map.lookup_insert]
  by_cases same : member = other
  · simp [same]
  · simp [same]

variable {projection : Projection} {entry : Option Entry}

/-- A projection refuses the commands that the described entry refuses. -/
theorem Describes.refusal? (describes : projection.Describes entry) (command : Command) :
    projection.refusal? command = command.refusal? entry := by
  rw [Projection.refusal?, describes.kind]
  rfl

section

open Collection

variable {contents value : Type} {collection : Collection contents value} {command : Command}
  {member : String} {change : contents → contents}

/-- Adding a member to a described collection, or to an absent key, is described by the projection
that adds it: the count grows exactly when the member is new. -/
theorem Describes.add (describes : projection.Describes entry) {given : value}
    (changes : collection.Changes command member (some given) change)
    (admitted : command.refusal? entry = none) :
    (projection.add collection.kind member).Describes (command.effect entry) := by
  obtain ⟨found, reached⟩ := changes.exists_found admitted
  have added : collection.lookup (change found) member = some given :=
    (changes.lookup found member).trans (if_pos rfl)
  have hasMember := (describes.has member).trans (has_of_found reached member)
  have size := describes.size.trans (size_of_found reached)
  rw [changes.effect_of_found reached, stored_of_lookup added]
  constructor
  · simp [Projection.add]
  · simp [Projection.add, hasMember, size, changes.size]
  · intro other
    rw [Projection.add, has_touched, describes.has, has_of_found reached, Option.map_some,
      Option.getD_some, collection.has_entry, changes.lookup]
    split <;> rfl

/-- Removing a member from a described collection is described by the projection that removes it.
Here the count decides: at one member that is there, nothing but the deletion of the key is left. -/
theorem Describes.remove (describes : projection.Describes entry)
    (inhabited : ∀ held, entry = some held → held.isEmptyCollection = false)
    (changes : collection.Changes command member none change)
    (admitted : command.refusal? entry = none) :
    (projection.remove member).Describes (command.effect entry) := by
  obtain ⟨found, reached⟩ := changes.exists_found admitted
  have hasMember := (describes.has member).trans (has_of_found reached member)
  have size := describes.size.trans (size_of_found reached)
  rw [changes.effect_of_found reached, Projection.remove, hasMember, size]
  cases held : collection.lookup found member with
  | none =>
      rw [changes.change_eq_self held, stored_of_found reached inhabited]
      simpa using describes
  | some score =>
      have there : entry = some (collection.entry found) := eq_entry_of_lookup reached held
      have counted := changes.size found
      have kindThere : projection.kind.isNone = false := by simp [describes.kind, there]
      simp only [held, Option.isSome_some, Option.isSome_none, if_true, Bool.false_eq_true, if_false]
        at counted
      simp only [kindThere, Option.isSome_some, Bool.not_true, Bool.or_self, Bool.false_eq_true,
        if_false, ← counted]
      rw [Collection.stored,
        Entry.isEmptyCollection_eq (kind_entry ▸ collection.kind_ne_string)]
      by_cases emptied : (collection.entry (change found)).size = 0
      · simpa [emptied] using describes_replaced_none
      · simp only [emptied, beq_iff_eq, if_false]
        constructor
        · simp [describes.kind, there]
        · simp
        · intro other
          rw [has_touched projection projection.kind, describes.has, has_of_found reached,
            Option.map_some, Option.getD_some, collection.has_entry, changes.lookup]
          split <;> rfl

end

/-- The projection goes on describing the entry through a command that is not refused. -/
theorem Describes.advance (describes : projection.Describes entry)
    (inhabited : ∀ held, entry = some held → held.isEmptyCollection = false)
    {command : Command} (admitted : command.refusal? entry = none) :
    (projection.advance command).Describes (command.effect entry) := by
  cases command with
  | set key value => exact describes_replaced_string value
  | del key => exact describes_replaced_none
  | zadd key score member => exact describes.add (Collection.changes_zadd key score member) admitted
  | zrem key member => exact describes.remove inhabited (Collection.changes_zrem key member) admitted
  | hset key field value => exact describes.add (Collection.changes_hset key field value) admitted
  | hdel key field => exact describes.remove inhabited (Collection.changes_hdel key field) admitted

end Projection

end DeviceCatalog
