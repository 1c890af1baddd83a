import DeviceCatalog.Proofs.Substrate.Projection
import DeviceCatalog.Substrate.Memory

/-!
# A batch as a sequence of commands

What a batch means is said by running its commands one by one, each of which looks at the value its
key holds by then: it fails when that value is of another kind, and a collection that it empties
ceases to exist. The substrate never runs a batch like this, since it has to refuse a bad batch
before touching anything. The two agree on every batch: the check ahead fails with the failure of
the first command that would have failed, and a batch that passes takes effect command by command.
-/

namespace DeviceCatalog

namespace KeySpace

/-- Stores a sorted set; there is no key for an empty one. -/
def putSortedSet (space : KeySpace) (key : String) (set : SortedSet) : KeySpace :=
  if set.isEmpty then space.erase key else space.insert key (.sortedSet set)

/-- Stores the fields of a hash; there is no key for an empty one. -/
def putHash (space : KeySpace) (key : String) (fields : Text.Map String) : KeySpace :=
  if fields.isEmpty then space.erase key else space.insert key (.hash fields)

/-- Runs one command on its own, against whatever its key holds. -/
def execute (space : KeySpace) : Command → Except StorageError KeySpace
  | .set key value => .ok (space.insert key (.string value))
  | .del key => .ok (space.erase key)
  | .zadd key score member =>
      (space.sortedSet key).map fun set => space.putSortedSet key (set.insert member score).2
  | .zrem key member =>
      (space.sortedSet key).map fun set => space.putSortedSet key (set.erase member).2
  | .hset key field value =>
      (space.hash key).map fun fields => space.putHash key (fields.insert field value)
  | .hdel key field =>
      (space.hash key).map fun fields => space.putHash key (fields.erase field)

/-- Runs commands one by one, up to the first that fails. -/
def executeAll (space : KeySpace) (batch : Batch) : Except StorageError KeySpace :=
  batch.foldlM execute space

variable {space : KeySpace}

/-- A key space is known from what it holds under each key. -/
theorem eq_apply_of_getElem? {command : Command} {after : KeySpace}
    (same : ∀ key : String, after[key]? =
      if command.key = key then command.effect space[command.key]? else space[key]?) :
    after = space.apply command := by
  apply Std.ExtTreeMap.ext_getElem?
  intro key
  rw [same, getElem?_apply]

/-- A command that changes a collection, run on its own: the collection is read, changed and put back. -/
theorem map_read {contents value : Type} {collection : Collection contents value} {command : Command}
    {member : String} {given : Option value} {change : contents → contents}
    (changes : collection.Changes command member given change) :
    ((collection.read space command.key).map fun found =>
      collection.put space command.key (change found)) =
        match command.refusal? space[command.key]? with
        | some failure => .error failure
        | none => .ok (space.apply command) := by
  cases reached : collection.found? space[command.key]? with
  | some found =>
      rw [Collection.read_of_found reached, changes.refusal?_of_found reached]
      refine congrArg Except.ok (eq_apply_of_getElem? fun other => ?_)
      rw [Collection.getElem?_put, changes.effect_of_found reached]
  | none =>
      obtain ⟨held, present, different⟩ := Collection.found?_eq_none_iff.1 reached
      rw [Collection.read_of_kind_ne present different, present,
        changes.refusal?_of_kind_ne different]
      rfl

/-- The command run on its own fails as its refusal says, and otherwise does what it does when a
batch is applied. -/
theorem execute_eq (command : Command) :
    space.execute command =
      match command.refusal? space[command.key]? with
      | some failure => .error failure
      | none => .ok (space.apply command) := by
  cases command with
  | set key value =>
      rw [Command.refusal?_of_needs_none rfl]
      refine congrArg Except.ok (eq_apply_of_getElem? fun other => ?_)
      exact Text.Map.lookup_insert space key other (.string value)
  | del key =>
      rw [Command.refusal?_of_needs_none rfl]
      refine congrArg Except.ok (eq_apply_of_getElem? fun other => ?_)
      exact Text.Map.lookup_erase space key other
  | zadd key score member =>
      rw [execute, ← Collection.ranked_read]
      exact map_read (Collection.changes_zadd key score member)
  | zrem key member =>
      rw [execute, ← Collection.ranked_read]
      exact map_read (Collection.changes_zrem key member)
  | hset key field value =>
      rw [execute, ← Collection.tabled_read]
      exact map_read (Collection.changes_hset key field value)
  | hdel key field =>
      rw [execute, ← Collection.tabled_read]
      exact map_read (Collection.changes_hdel key field)

/-- Applying a command keeps a key space free of empty collections. -/
theorem NoEmptyCollection.apply (inhabited : space.NoEmptyCollection) (command : Command) :
    (space.apply command).NoEmptyCollection := by
  intro key entry result
  rw [getElem?_apply] at result
  split at result
  next => exact Command.effect_isEmptyCollection (inhabited command.key) entry result
  next => exact inhabited key entry result

theorem NoEmptyCollection.applyAll (inhabited : space.NoEmptyCollection) (batch : Batch) :
    (space.applyAll batch).NoEmptyCollection := by
  induction batch generalizing space with
  | nil => exact inhabited
  | cons command rest ih => exact ih (inhabited.apply command)

/-- A run that fails does so at a command of the batch, after the commands before it went through,
because the key of that command holds another kind of value than the command needs. -/
theorem exists_of_executeAll_eq_error {batch : Batch} {failure : StorageError}
    (failed : space.executeAll batch = .error failure) :
    ∃ before command after reached actual expected,
      batch = before ++ command :: after ∧ space.executeAll before = .ok reached ∧
        reached[command.key]?.map Entry.kind = some actual ∧ command.needs = some expected ∧
        actual ≠ expected ∧ failure = .wrongType command.key expected actual := by
  induction batch generalizing space with
  | nil => cases failed
  | cons command rest ih =>
      cases refused : command.refusal? space[command.key]? with
      | some refusal =>
          have stopped : space.execute command = .error refusal := by rw [execute_eq, refused]
          simp only [executeAll, List.foldlM_cons, stopped] at failed
          cases failed
          obtain ⟨actual, expected, held, needed, different, rfl⟩ :=
            Command.refusal?_eq_some_iff.1 refused
          exact ⟨[], command, rest, space, actual, expected, rfl, rfl, held, needed, different, rfl⟩
      | none =>
          have passed : space.execute command = .ok (space.apply command) := by
            rw [execute_eq, refused]
          simp only [executeAll, List.foldlM_cons, passed] at failed
          obtain ⟨before, stopping, after, reached, actual, expected, rfl, ran, held, needed,
            different, rfl⟩ := ih failed
          refine ⟨command :: before, stopping, after, reached, actual, expected, rfl, ?_, held,
            needed, different, rfl⟩
          simp only [executeAll, List.foldlM_cons, passed]
          exact ran

end KeySpace

namespace Admission

open KeySpace

/-- The projections kept part-way through a batch describe what the keys hold by then. -/
def Tracks (space : KeySpace) (pending : Pending) (reached : KeySpace) : Prop :=
  ∀ key : String, (projectionOf space pending key).Describes reached[key]?

theorem tracks_start (space : KeySpace) : Tracks space ∅ space := by
  intro key
  simpa [projectionOf] using Projection.describes_ofEntry space[key]?

variable {space reached : KeySpace} {pending : Pending}

/-- A step of the check keeps track of the command that it admits. -/
theorem Tracks.apply (tracks : Tracks space pending reached)
    (inhabited : reached.NoEmptyCollection) {command : Command}
    (admitted : command.refusal? reached[command.key]? = none) :
    Tracks space
      (pending.insert command.key ((projectionOf space pending command.key).advance command))
      (reached.apply command) := by
  intro key
  rw [getElem?_apply, projectionOf_insert]
  split
  next => exact (tracks command.key).advance (inhabited command.key) admitted
  next => exact tracks key

/-- The check of a batch fails exactly as the run of its commands one by one does, and where it does
not fail the run ends where applying the batch ends. -/
theorem executeAll_eq_of_tracks (batch : Batch) (tracks : Tracks space pending reached)
    (inhabited : reached.NoEmptyCollection) :
    reached.executeAll batch =
      (batch.foldlM (step space) pending).map fun _ => reached.applyAll batch := by
  induction batch generalizing pending reached with
  | nil => rfl
  | cons command rest ih =>
      simp only [executeAll, List.foldlM_cons, execute_eq, step,
        (tracks command.key).refusal? command]
      cases refused : command.refusal? reached[command.key]? with
      | some refusal => rfl
      | none => exact ih (tracks.apply inhabited refused) (inhabited.apply command)

theorem executeAll_eq_check (inhabited : space.NoEmptyCollection) (batch : Batch) :
    space.executeAll batch = (check space batch).map fun _ => space.applyAll batch :=
  executeAll_eq_of_tracks batch (tracks_start space) inhabited

end Admission

namespace Memory

/-- The substrate after batches handed to it one after another, whatever came of each. -/
def execEach (memory : Memory) (batches : List Batch) : Memory :=
  batches.foldl (fun reached batch => (reached.exec batch).2) memory

/-- No failure is set up: calls reach the key space. -/
structure Ready (memory : Memory) : Prop where
  abortNext : memory.abortNext = none
  unavailable : memory.unavailable = false

theorem ready_empty : empty.Ready := ⟨rfl, rfl⟩

variable {memory : Memory}

/-- A substrate that is ready runs a batch that the check admits, and leaves all others. -/
theorem Ready.exec_eq (ready : memory.Ready) (batch : Batch) :
    memory.exec batch =
      match Admission.check memory.space batch with
      | .error refusal => (.error refusal, memory)
      | .ok _ => (.ok (), { memory with space := memory.space.applyAll batch }) := by
  cases checked : Admission.check memory.space batch with
  | error refusal =>
      simp only [exec, ready.unavailable, ready.abortNext, checked, Bool.false_eq_true, if_false]
  | ok pending =>
      simp only [exec, ready.unavailable, ready.abortNext, checked, Bool.false_eq_true, if_false]

theorem Ready.exec (ready : memory.Ready) (batch : Batch) : (memory.exec batch).2.Ready := by
  rw [ready.exec_eq]
  split
  next => exact ready
  next => exact ⟨ready.abortNext, ready.unavailable⟩

/-- On a substrate that is ready a batch does what its commands do one by one, or nothing. -/
theorem Ready.exec_eq_executeAll (ready : memory.Ready)
    (inhabited : memory.space.NoEmptyCollection) (batch : Batch) :
    memory.exec batch =
      match memory.space.executeAll batch with
      | .error failure => (.error failure, memory)
      | .ok final => (.ok (), { memory with space := final }) := by
  rw [ready.exec_eq, Admission.executeAll_eq_check inhabited]
  cases Admission.check memory.space batch <;> rfl

theorem Ready.noEmptyCollection_exec (ready : memory.Ready)
    (inhabited : memory.space.NoEmptyCollection) (batch : Batch) :
    (memory.exec batch).2.space.NoEmptyCollection := by
  rw [ready.exec_eq]
  split
  next => exact inhabited
  next => exact inhabited.applyAll batch

theorem ready_execEach (ready : memory.Ready) (inhabited : memory.space.NoEmptyCollection)
    (batches : List Batch) :
    (memory.execEach batches).Ready ∧ (memory.execEach batches).space.NoEmptyCollection := by
  induction batches generalizing memory with
  | nil => exact ⟨ready, inhabited⟩
  | cons batch rest ih => exact ih (ready.exec batch) (ready.noEmptyCollection_exec inhabited batch)

/-- After any batches, the next batch takes effect as its commands do one by one; if one of them
fails, the batch fails with the failure of the first one that does and changes nothing. Either way no
empty collection is left. -/
theorem exec_after_execEach (batches : List Batch) (batch : Batch) :
    let memory := empty.execEach batches
    (∀ final, memory.space.executeAll batch = .ok final →
      memory.exec batch = (.ok (), { memory with space := final })) ∧
    (∀ failure, memory.space.executeAll batch = .error failure →
      memory.exec batch = (.error failure, memory) ∧
      ∃ before command after reached actual expected,
        batch = before ++ command :: after ∧ memory.space.executeAll before = .ok reached ∧
          reached[command.key]?.map Entry.kind = some actual ∧ command.needs = some expected ∧
          actual ≠ expected ∧ failure = .wrongType command.key expected actual) ∧
    memory.space.NoEmptyCollection ∧ (memory.exec batch).2.space.NoEmptyCollection := by
  intro memory
  have emptyInhabited : empty.space.NoEmptyCollection := by
    intro key entry held
    simp [empty] at held
  obtain ⟨ready, inhabited⟩ := ready_execEach ready_empty emptyInhabited batches
  have agree := ready.exec_eq_executeAll inhabited batch
  refine ⟨?_, ?_, inhabited, ready.noEmptyCollection_exec inhabited batch⟩
  · intro final ran
    rw [agree, ran]
  · intro failure failed
    refine ⟨?_, KeySpace.exists_of_executeAll_eq_error failed⟩
    rw [agree, failed]

end Memory

end DeviceCatalog
