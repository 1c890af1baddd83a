import DeviceCatalog.Substrate.Command
import DeviceCatalog.Substrate.StorageError

/-!
# Admission of a batch

A batch is checked as a whole before any of its commands is applied. The check does not run the
batch: for each key that the batch has touched it keeps a projection, that is, the kind of value
the key will hold at this point, how many members it will have, and which members the batch itself
has added or removed. This is enough to know when a removal empties a collection and so deletes its
key, after which the key may take a value of another kind within the same batch.
-/

namespace DeviceCatalog

/-- What a key will hold part-way through a batch. -/
structure Projection where
  /-- The kind of value, or none while the key is absent. -/
  kind : Option Kind
  /-- The value before the batch, as long as it still stands behind the key. -/
  base : Option Entry
  /-- Number of members or fields. -/
  size : Nat
  /-- Members or fields that the batch has touched, with whether they are now present. -/
  touched : Text.Map Bool

namespace Projection

/-- The projection of a key that the batch has not touched yet. -/
def ofEntry (entry : Option Entry) : Projection where
  kind := entry.map Entry.kind
  base := entry
  size := (entry.map Entry.size).getD 0
  touched := ∅

/-- A key whose whole value was replaced or deleted: nothing of the former value counts any more. -/
def replaced (kind : Option Kind) : Projection where
  kind := kind
  base := none
  size := 0
  touched := ∅

/-- Whether a member is present: what the batch did to it decides, and the former value otherwise.
-/
def has (projection : Projection) (member : String) : Bool :=
  match projection.touched[member]? with
  | some present => present
  | none => (projection.base.map (·.has member)).getD false

/-- A member is added or overwritten. -/
def add (projection : Projection) (kind : Kind) (member : String) : Projection :=
  { projection with
    kind := some kind
    size := if projection.has member then projection.size else projection.size + 1
    touched := projection.touched.insert member true }

/-- A member is removed, if it is there; the key goes with its last member. -/
def remove (projection : Projection) (member : String) : Projection :=
  if projection.kind.isNone || !projection.has member then projection
  else if projection.size - 1 = 0 then replaced none
  else
    { projection with
      size := projection.size - 1
      touched := projection.touched.insert member false }

/-- A command is refused when its key holds another kind of value than it needs. -/
def refusal? (projection : Projection) (command : Command) : Option StorageError :=
  match projection.kind, command.needs with
  | some actual, some expected =>
    if actual = expected then none else some (.wrongType command.key expected actual)
  | _, _ => none

/-- The projection after a command that was not refused. -/
def advance (projection : Projection) : Command → Projection
  | .set .. => replaced (some .string)
  | .del _ => replaced none
  | .zadd _ _ member => projection.add .sortedSet member
  | .zrem _ member => projection.remove member
  | .hset _ field _ => projection.add .hash field
  | .hdel _ field => projection.remove field

end Projection

namespace Admission

/-- Projections of the keys that a batch has touched so far. -/
abbrev Pending := Text.Map Projection

/-- The projection of a key: the pending one, or that of its present value. -/
def projectionOf (space : KeySpace) (pending : Pending) (key : String) : Projection :=
  (pending[key]?).getD (Projection.ofEntry space[key]?)

/-- Checks one command after the projections of the commands before it. -/
def step (space : KeySpace) (pending : Pending) (command : Command) :
    Except StorageError Pending :=
  let projection := projectionOf space pending command.key
  match projection.refusal? command with
  | some refusal => .error refusal
  | none => .ok (pending.insert command.key (projection.advance command))

/-- Checks the commands of a batch in order; the first one that is refused refuses the batch. -/
def check (space : KeySpace) (batch : Batch) : Except StorageError Pending :=
  batch.foldlM (step space) ∅

/-- Only the key that is projected anew has another projection than before. -/
theorem projectionOf_insert (space : KeySpace) (pending : Pending) (key other : String)
    (projection : Projection) :
    projectionOf space (pending.insert key projection) other =
      if key = other then projection else projectionOf space pending other := by
  rw [projectionOf, Text.Map.lookup_insert]
  split <;> rfl

/-- A command that is not refused projects its key anew, and no command does more. -/
theorem step_eq_ok_iff {space : KeySpace} {pending after : Pending} {command : Command} :
    step space pending command = .ok after ↔
      (projectionOf space pending command.key).refusal? command = none ∧
        after = pending.insert command.key
          ((projectionOf space pending command.key).advance command) := by
  rw [step]
  split
  next refusal refused => simp [refused]
  next admitted => simp [admitted, eq_comm]

/-- Commands are let through one after another. -/
theorem foldlM_step_cons_eq_ok_iff {space : KeySpace} {pending after : Pending} {command : Command}
    {rest : Batch} :
    (command :: rest).foldlM (step space) pending = .ok after ↔
      ∃ between, step space pending command = .ok between ∧
        rest.foldlM (step space) between = .ok after := by
  rw [List.foldlM_cons]
  cases step space pending command with
  | error refusal => simp [bind, Except.bind]
  | ok between => simp [bind, Except.bind]

end Admission

end DeviceCatalog
