import DeviceCatalog.Score.Decimal
import DeviceCatalog.Substrate.Entry

/-!
# Commands and batches

A command changes one key. A batch is the ordered list of commands of one logical write; the
substrate applies all of them or none.

What a command does is given on a single entry (`Command.effect`): the value that its key holds
afterwards depends on nothing but the value before.
-/

namespace DeviceCatalog

/-- One queued change of one key. -/
inductive Command where
  | set (key : String) (value : Bytes)
  | del (key : String)
  | zadd (key : String) (score : Score) (member : String)
  | zrem (key : String) (member : String)
  | hset (key : String) (field value : String)
  | hdel (key : String) (field : String)
deriving DecidableEq, Repr

namespace Command

/-- The key that the command changes. -/
def key : Command → String
  | set key _ => key
  | del key => key
  | zadd key _ _ => key
  | zrem key _ => key
  | hset key _ _ => key
  | hdel key _ => key

/-- Name of the command on the wire. -/
def wireName : Command → String
  | set .. => "SET"
  | del .. => "DEL"
  | zadd .. => "ZADD"
  | zrem .. => "ZREM"
  | hset .. => "HSET"
  | hdel .. => "HDEL"

/-- The command on one line; a value is shown by its length, a score by its decimal text. -/
def text : Command → String
  | set key value => "SET " ++ key ++ " <" ++ Nat.repr value.length ++ " bytes>"
  | del key => "DEL " ++ key
  | zadd key score member => "ZADD " ++ key ++ " " ++ score.toDecimal ++ " " ++ member
  | zrem key member => "ZREM " ++ key ++ " " ++ member
  | hset key field value => "HSET " ++ key ++ " " ++ field ++ " " ++ value
  | hdel key field => "HDEL " ++ key ++ " " ++ field

/-- The kind of value that the command needs its key to hold, if the key holds any; a string is set
and a key deleted whatever it holds. -/
def needs : Command → Option Kind
  | set .. | del .. => none
  | zadd .. | zrem .. => some .sortedSet
  | hset .. | hdel .. => some .hash

/-- What the command makes of the value under its key. Adding to an absent collection creates it,
removing the last member or field deletes it, and a value of another kind is left alone. -/
def effect : Command → Option Entry → Option Entry
  | set _ value, _ => some (.string value)
  | del _, _ => none
  | zadd _ score member, none => some (.sortedSet (SortedSet.empty.insert member score).2)
  | zadd _ score member, some (.sortedSet ranked) =>
    some (.sortedSet (ranked.insert member score).2)
  | zrem _ member, some (.sortedSet ranked) =>
    let rest := (ranked.erase member).2
    if rest.isEmpty then none else some (.sortedSet rest)
  | hset _ field value, none => some (.hash ((∅ : Text.Map String).insert field value))
  | hset _ field value, some (.hash fields) => some (.hash (fields.insert field value))
  | hdel _ field, some (.hash fields) =>
    let rest := fields.erase field
    if rest.isEmpty then none else some (.hash rest)
  | _, entry => entry

/-- Equality with scores compared as numbers: the zeros are equal and a NaN is not equal to
itself. -/
def numericallyEqual : Command → Command → Bool
  | zadd key score member, zadd otherKey otherScore otherMember =>
    key == otherKey && score.numericallyEqual otherScore && member == otherMember
  | left, right => left == right

end Command

/-- The commands of one logical write, in order. -/
abbrev Batch := List Command

namespace Batch

/-- Equality of batches with scores compared as numbers. -/
def numericallyEqual : Batch → Batch → Bool
  | [], [] => true
  | left :: lefts, right :: rights =>
    left.numericallyEqual right && numericallyEqual lefts rights
  | _, _ => false

end Batch

namespace KeySpace

/-- Applies one command to the key it names. -/
def apply (space : KeySpace) (command : Command) : KeySpace :=
  space.alter command.key command.effect

/-- Applies the commands of a batch in order. -/
def applyAll (space : KeySpace) (batch : Batch) : KeySpace :=
  batch.foldl apply space

/-- A command changes its own key by its effect and leaves every other key alone. -/
theorem getElem?_apply (space : KeySpace) (command : Command) (key : String) :
    (apply space command)[key]? =
      if command.key = key then command.effect space[command.key]? else space[key]? := by
  simp [apply, Std.ExtTreeMap.getElem?_alter]

@[simp] theorem applyAll_nil (space : KeySpace) : applyAll space [] = space := rfl

@[simp] theorem applyAll_cons (space : KeySpace) (command : Command) (batch : Batch) :
    applyAll space (command :: batch) = applyAll (apply space command) batch := rfl

theorem applyAll_append (space : KeySpace) (first second : Batch) :
    applyAll space (first ++ second) = applyAll (applyAll space first) second := by
  simp [applyAll]

end KeySpace

end DeviceCatalog
