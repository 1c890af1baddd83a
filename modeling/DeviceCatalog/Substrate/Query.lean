import DeviceCatalog.Substrate.StorageError

/-!
# Queries

The reading calls of the substrate, as data, together with the type of each answer and the answer
that a key space gives. A query of an absent key answers as an empty collection would; a query of a
key that holds another kind of value fails, save that a multiple get answers nothing for such a key.
-/

namespace DeviceCatalog

/-- A reading call. -/
inductive Query where
  | get (key : String)
  | mget (keys : List String)
  | zscore (key member : String)
  | zcard (key : String)
  | zrange (key : String) (first last : Int64)
  | zrevrange (key : String) (first last : Int64)
  | hget (key field : String)
  | hexists (key field : String)
deriving DecidableEq, Repr

namespace Query

/-- What a query is answered with. -/
@[reducible] def Answer : Query → Type
  | get _ => Option Bytes
  | mget _ => List (Option Bytes)
  | zscore .. => Option Score
  | zcard _ => Nat
  | zrange .. => List String
  | zrevrange .. => List String
  | hget .. => Option String
  | hexists .. => Bool

end Query

namespace KeySpace

/-- The bytes under a key. -/
def string? (space : KeySpace) (key : String) : Except StorageError (Option Bytes) :=
  match space[key]? with
  | none => .ok none
  | some (.string value) => .ok (some value)
  | some other => .error (.wrongType key .string other.kind)

/-- The sorted set under a key; an absent key holds the empty one. -/
def sortedSet (space : KeySpace) (key : String) : Except StorageError SortedSet :=
  match space[key]? with
  | none => .ok .empty
  | some (.sortedSet set) => .ok set
  | some other => .error (.wrongType key .sortedSet other.kind)

/-- The fields of the hash under a key; an absent key holds none. -/
def hash (space : KeySpace) (key : String) : Except StorageError (Text.Map String) :=
  match space[key]? with
  | none => .ok ∅
  | some (.hash fields) => .ok fields
  | some other => .error (.wrongType key .hash other.kind)

/-- The bytes under a key, if it holds a string at all. -/
def bytes? (space : KeySpace) (key : String) : Option Bytes :=
  match space[key]? with
  | some (.string value) => some value
  | _ => none

/-- The answer of a key space to a query. -/
def answer (space : KeySpace) : (query : Query) → Except StorageError query.Answer
  | .get key => space.string? key
  | .mget keys => .ok (keys.map space.bytes?)
  | .zscore key member => (space.sortedSet key).map (·.score? member)
  | .zcard key => (space.sortedSet key).map (·.size)
  | .zrange key first last => (space.sortedSet key).map (·.range first last)
  | .zrevrange key first last => (space.sortedSet key).map (·.revRange first last)
  | .hget key field => (space.hash key).map (·[field]?)
  | .hexists key field => (space.hash key).map (·.contains field)

end KeySpace

end DeviceCatalog
