import DeviceCatalog.Proofs.Substrate.Sequential

/-!
# What the check knows part-way

The check of a batch keeps a projection of each key that it has come across and applies nothing.
Wherever it stands in the batch, these projections say what their keys would hold if the commands so
far had been applied. For removals it follows that the count which a projection keeps is never counted
down past zero, and that a key is projected to be gone exactly when its only member is removed.
-/

namespace DeviceCatalog

namespace Entry

variable {entry : Entry}

/-- A collection that is not empty has a member. -/
theorem exists_has (collection : entry.kind ≠ .string)
    (inhabited : entry.isEmptyCollection = false) : ∃ member, entry.has member = true := by
  apply Classical.byContradiction
  intro nobody
  have vacant : entry.isEmptyCollection = true := by
    apply (isEmptyCollection_iff collection).2
    intro member
    exact Bool.eq_false_iff.2 fun present => nobody ⟨member, present⟩
  rw [vacant] at inhabited
  cases inhabited

/-- Only a collection has members. -/
theorem kind_ne_string_of_has {member : String} (present : entry.has member = true) :
    entry.kind ≠ .string := by
  cases entry with
  | string value => cases present
  | sortedSet set | hash fields => simp [kind]

/-- Where a member is, something is counted. -/
theorem size_pos_of_has {member : String} (present : entry.has member = true) : 0 < entry.size := by
  have collection := kind_ne_string_of_has present
  apply Nat.pos_of_ne_zero
  intro uncounted
  have vacant : entry.isEmptyCollection = true := by
    rw [isEmptyCollection_eq collection, uncounted]
    rfl
  rw [(isEmptyCollection_iff collection).1 vacant member] at present
  cases present

end Entry

/-- A removal that is not refused deletes its key exactly when the member that it removes is the only
one. -/
theorem Collection.Changes.effect_eq_none_iff {contents value : Type}
    {collection : Collection contents value} {command : Command} {member : String}
    {change : contents → contents} (changes : collection.Changes command member none change)
    {held : Entry} (admitted : command.refusal? (some held) = none)
    (inhabited : held.isEmptyCollection = false) :
    command.effect (some held) = none ↔ ∀ other, held.has other = true ↔ other = member := by
  obtain ⟨found, reached⟩ := changes.exists_found admitted
  obtain rfl : held = collection.entry found := collection.contents?_eq_some_iff.1 reached
  have isCollection : ∀ found, (collection.entry found).kind ≠ .string :=
    fun found => kind_entry ▸ collection.kind_ne_string
  have gone : command.effect (some (collection.entry found)) = none ↔
      ∀ other, (collection.entry (change found)).has other = false := by
    rw [changes.present, stored, ← Entry.isEmptyCollection_iff (isCollection _)]
    simp
  have left : ∀ other, (collection.entry (change found)).has other = false ↔
      ((collection.entry found).has other = true → other = member) := by
    intro other
    rw [collection.has_entry, collection.has_entry, changes.lookup]
    by_cases same : member = other
    · simp [same]
    · simp [same, Ne.symm same]
  simp only [gone, left]
  constructor
  · intro only other
    -- Someone is there since no empty collection is held, and it can only be the member removed.
    obtain ⟨someone, present⟩ := Entry.exists_has (isCollection found) inhabited
    constructor
    · exact only other
    · rintro rfl
      exact only someone present ▸ present
  · exact fun exactly other => (exactly other).1

namespace Command

/-- The member or field that a command takes away from the value under its key. -/
def removed? : Command → Option String
  | zrem _ member => some member
  | hdel _ field => some field
  | _ => none

theorem effect_eq_none_iff {command : Command} {member : String} {held : Entry}
    (removes : command.removed? = some member) (admitted : command.refusal? (some held) = none)
    (inhabited : held.isEmptyCollection = false) :
    command.effect (some held) = none ↔ ∀ other, held.has other = true ↔ other = member := by
  cases command with
  | set key value | del key | zadd key score other | hset key field value => cases removes
  | zrem key gone =>
      obtain rfl : gone = member := Option.some.inj removes
      exact (Collection.changes_zrem key gone).effect_eq_none_iff admitted inhabited
  | hdel key gone =>
      obtain rfl : gone = member := Option.some.inj removes
      exact (Collection.changes_hdel key gone).effect_eq_none_iff admitted inhabited

end Command

/-- A described key counts its members, so a removal finds something to count down. -/
theorem Projection.Describes.size_pos {projection : Projection} {entry : Option Entry}
    (describes : projection.Describes entry) {member : String}
    (present : projection.has member = true) : 0 < projection.size := by
  rw [describes.has] at present
  rw [describes.size]
  cases entry with
  | none => cases present
  | some held => exact Entry.size_pos_of_has present

namespace Admission

open KeySpace

variable {space reached : KeySpace} {pending after : Pending}

/-- A step that goes through keeps track of its command. -/
theorem Tracks.of_step (tracks : Tracks space pending reached) (inhabited : reached.NoEmptyCollection)
    {command : Command} (stepped : step space pending command = .ok after) :
    Tracks space after (reached.apply command) := by
  obtain ⟨accepted, rfl⟩ := step_eq_ok_iff.1 stepped
  rw [(tracks command.key).refusal?] at accepted
  exact tracks.apply inhabited accepted

/-- The check keeps track of all commands that it lets through. -/
theorem Tracks.of_foldlM (tracks : Tracks space pending reached)
    (inhabited : reached.NoEmptyCollection) {batch : Batch}
    (admitted : batch.foldlM (step space) pending = .ok after) :
    Tracks space after (reached.applyAll batch) := by
  induction batch generalizing pending reached with
  | nil =>
      cases admitted
      exact tracks
  | cons command rest ih =>
      obtain ⟨between, stepped, continued⟩ := foldlM_step_cons_eq_ok_iff.1 admitted
      exact ih (tracks.of_step inhabited stepped) (inhabited.apply command) continued

/-- A projection is kept of the keys that the commands so far are addressed to. -/
theorem mem_iff_of_foldlM {batch : Batch} (admitted : batch.foldlM (step space) pending = .ok after)
    (key : String) : key ∈ after ↔ key ∈ pending ∨ ∃ command ∈ batch, command.key = key := by
  induction batch generalizing pending with
  | nil =>
      cases admitted
      simp
  | cons command rest ih =>
      obtain ⟨between, stepped, continued⟩ := foldlM_step_cons_eq_ok_iff.1 admitted
      obtain ⟨-, rfl⟩ := step_eq_ok_iff.1 stepped
      rw [ih continued]
      simp [or_assoc, or_comm]

/-- Let the check stand anywhere in a batch. From here it goes on with the projections that it keeps,
one for each key that was addressed so far, and these describe what applying the commands so far would
leave under the keys. A member that is present is counted, so no removal counts down from zero; and
after a removal the key is projected to be gone exactly when the member removed was all that was left
under it. -/
theorem describes_of_check (inhabited : space.NoEmptyCollection) {before : Batch}
    (admitted : check space before = .ok pending) (rest : Batch) :
    check space (before ++ rest) = rest.foldlM (step space) pending ∧
    (∀ key : String, key ∈ pending ↔ ∃ command ∈ before, command.key = key) ∧
    (∀ (key : String) (projection : Projection), pending[key]? = some projection →
      projection.Describes (space.applyAll before)[key]?) ∧
    (∀ key member : String, (projectionOf space pending key).has member = true →
      0 < (projectionOf space pending key).size) ∧
    ∀ (command : Command) (member : String) (later : Pending) (held : Entry),
      command.removed? = some member → step space pending command = .ok later →
      (space.applyAll before)[command.key]? = some held →
      ∃ projection, later[command.key]? = some projection ∧
        (projection.kind = none ↔ ∀ other, held.has other = true ↔ other = member) := by
  have tracks := (tracks_start space).of_foldlM inhabited admitted
  have reachedInhabited := inhabited.applyAll before
  refine ⟨?_, ?_, ?_, ?_, ?_⟩
  · rw [check, List.foldlM_append]
    rw [check] at admitted
    rw [admitted]
    rfl
  · intro key
    rw [mem_iff_of_foldlM admitted]
    simp
  · intro key projection kept
    have describes := tracks key
    rwa [projectionOf, kept] at describes
  · intro key member present
    exact (tracks key).size_pos present
  · intro command member later held removes stepped found
    have describes := tracks.of_step reachedInhabited stepped command.key
    obtain ⟨accepted, rfl⟩ := step_eq_ok_iff.1 stepped
    refine ⟨_, Std.ExtTreeMap.getElem?_insert_self, ?_⟩
    rw [projectionOf_insert, if_pos rfl, getElem?_apply, if_pos rfl, found] at describes
    rw [(tracks command.key).refusal?, found] at accepted
    rw [describes.kind, Option.map_eq_none_iff]
    exact Command.effect_eq_none_iff removes accepted (reachedInhabited command.key held found)

/-- A key that held two members, one of which was removed and put back, is projected to be gone once the
other one and then this one are removed. -/
theorem describes_of_check_refilled :
    let space := (∅ : KeySpace).applyAll [.zadd "k" .zero "a", .zadd "k" .zero "b"]
    let before : Batch := [.zrem "k" "a", .zadd "k" .zero "a", .zrem "k" "b"]
    let held := Entry.sortedSet (SortedSet.empty.insert "a" .zero).2
    space.NoEmptyCollection ∧ (space.applyAll before)["k"]? = some held ∧
      ∃ pending later projection, check space before = .ok pending ∧
        step space pending (.zrem "k" "a") = .ok later ∧ later["k"]? = some projection ∧
        projection.kind = none := by
  intro space before held
  have inhabited : space.NoEmptyCollection := noEmptyCollection_empty.applyAll _
  have found : (space.applyAll before)["k"]? = some held := by rfl
  obtain ⟨pending, admitted⟩ : ∃ pending, check space before = .ok pending := ⟨_, rfl⟩
  obtain ⟨last, completed⟩ : ∃ last, check space (before ++ [.zrem "k" "a"]) = .ok last := ⟨_, rfl⟩
  obtain ⟨continues, -, -, -, deletes⟩ := describes_of_check inhabited admitted [.zrem "k" "a"]
  rw [continues] at completed
  obtain ⟨later, stepped, -⟩ := foldlM_step_cons_eq_ok_iff.1 completed
  obtain ⟨projection, kept, gone⟩ := deletes (.zrem "k" "a") "a" later held rfl stepped found
  refine ⟨inhabited, found, pending, later, projection, admitted, stepped, kept, ?_⟩
  apply gone.2
  intro other
  by_cases same : "a" = other
  · simp [held, Entry.has, ← same]
  · simp [held, Entry.has, same, Ne.symm same]

end Admission

end DeviceCatalog
