import DeviceCatalog.SortedSet

/-!
# Entries of the key space

Each key of the substrate holds one of three kinds of value: a string of bytes, a sorted set, or a
hash of text fields. A key without a value is absent; an emptied sorted set or hash is removed, so
a reachable key space never holds an empty collection.
-/

namespace DeviceCatalog

/-- The kinds of value that a key can hold. -/
inductive Kind where
  | string
  | sortedSet
  | hash
deriving DecidableEq, Repr

namespace Kind

/-- Name of a kind in messages. -/
def label : Kind → String
  | string => "string"
  | sortedSet => "zset"
  | hash => "hash"

end Kind

/-- The value held under one key. -/
inductive Entry where
  | string (value : Bytes)
  | sortedSet (set : SortedSet)
  | hash (fields : Text.Map String)

namespace Entry

/-- The kind of a value. -/
def kind : Entry → Kind
  | string _ => .string
  | sortedSet _ => .sortedSet
  | hash _ => .hash

/-- Number of members or fields; a string counts none. -/
def size : Entry → Nat
  | string _ => 0
  | sortedSet set => set.size
  | hash fields => fields.size

/-- Whether a member or field is there; a string has none. -/
def has : Entry → String → Bool
  | string _, _ => false
  | sortedSet set, member => (set.score? member).isSome
  | hash fields, field => fields.contains field

end Entry

/-- All stored values, by key. -/
abbrev KeySpace := Text.Map Entry

end DeviceCatalog
