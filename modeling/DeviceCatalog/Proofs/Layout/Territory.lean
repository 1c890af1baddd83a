import DeviceCatalog.Proofs.Layout.Families

/-!
# The keys of a layout

A layout owns one key of its own, that of the index of ids, and every key that begins with its
collection and its separator. Two layouts own no key in common when their collections differ and
neither of these beginnings is a beginning of the other.
-/

namespace DeviceCatalog.Layout

/-- What all keys of a layout but one begin with. -/
def root (layout : Layout) : String := layout.collection ++ layout.separator

/-- The key is the index of ids, or the record key of some path. -/
def Owns (layout : Layout) (key : String) : Prop :=
  key = layout.idIndex ∨ ∃ path, key = layout.recordKey path

/-- The collections differ, and neither root starts with the other. -/
structure Apart (left right : Layout) : Prop where
  collections : left.collection ≠ right.collection
  forwards : Text.startsWith right.root left.root = false
  backwards : Text.startsWith left.root right.root = false

variable {layout left right : Layout}

theorem owns_idIndex : layout.Owns layout.idIndex := .inl rfl

theorem owns_recordKey (path : String) : layout.Owns (layout.recordKey path) := .inr ⟨path, rfl⟩

theorem owns_nameIndex : layout.Owns layout.nameIndex := owns_recordKey "name"

theorem owns_groupIndex (group : Group) : layout.Owns (layout.groupIndex group) :=
  .inr ⟨_, layout.groupIndex_eq group⟩

namespace Apart

theorem symm (apart : left.Apart right) : right.Apart left :=
  ⟨apart.collections.symm, apart.backwards, apart.forwards⟩

/-- Two texts that are continued to the same text start one with the other. -/
theorem startsWith_of_append {first second firstRest secondRest : String}
    (same : first ++ firstRest = second ++ secondRest) :
    Text.startsWith first second = true ∨ Text.startsWith second first = true := by
  have lists : first.toList ++ firstRest.toList = second.toList ++ secondRest.toList := by
    simpa using congrArg String.toList same
  simp only [Text.startsWith, List.isPrefixOf_iff_prefix]
  rcases List.append_eq_append_iff.1 lists with ⟨middle, second, _⟩ | ⟨middle, first, _⟩
  · exact .inr ⟨middle, second.symm⟩
  · exact .inl ⟨middle, first.symm⟩

theorem recordKey_ne (apart : left.Apart right) (path other : String) :
    left.recordKey path ≠ right.recordKey other := by
  intro same
  rw [recordKey_eq, recordKey_eq] at same
  rcases startsWith_of_append same with starts | starts
  · exact Bool.false_ne_true (apart.backwards.symm.trans starts)
  · exact Bool.false_ne_true (apart.forwards.symm.trans starts)

/-- A collection that is a record key of the other layout would make its own root start with the root
of that layout. -/
theorem idIndex_ne_recordKey (apart : left.Apart right) (path : String) :
    left.idIndex ≠ right.recordKey path := by
  intro same
  have starts : Text.startsWith left.root right.root = true := by
    rw [Text.startsWith_iff]
    refine ⟨path ++ left.separator, ?_⟩
    rw [← String.append_assoc]
    exact congrArg (· ++ left.separator) same
  exact Bool.false_ne_true (apart.backwards.symm.trans starts)

/-- Layouts that are apart own no key in common. -/
theorem not_owns (apart : left.Apart right) {key : String} (owned : left.Owns key) :
    ¬ right.Owns key := by
  rintro (index | ⟨other, record⟩)
  · rcases owned with rfl | ⟨path, rfl⟩
    · exact apart.collections index
    · exact apart.symm.idIndex_ne_recordKey path index.symm
  · rcases owned with rfl | ⟨path, rfl⟩
    · exact apart.idIndex_ne_recordKey other record
    · exact apart.recordKey_ne path other record

end Apart

/-- The key belongs to one of several layouts. -/
def OwnedBy (layouts : List Layout) (index : Nat) (key : String) : Prop :=
  ∃ layout, layouts[index]? = some layout ∧ layout.Owns key

theorem ownedBy_iff {layouts : List Layout} {index : Nat} {key : String}
    (present : layouts[index]? = some layout) :
    OwnedBy layouts index key ↔ layout.Owns key := by
  constructor
  · rintro ⟨other, listed, owned⟩
    rw [present] at listed
    exact Option.some.inj listed ▸ owned
  · exact fun owned => ⟨layout, present, owned⟩

/-- Among layouts that are apart from each other, a key belongs to one at most. -/
theorem eq_of_ownedBy {layouts : List Layout} (apart : layouts.Pairwise Apart) {first second : Nat}
    {key : String} (firstOwns : OwnedBy layouts first key) (secondOwns : OwnedBy layouts second key) :
    first = second := by
  obtain ⟨left, leftListed, leftOwns⟩ := firstOwns
  obtain ⟨right, rightListed, rightOwns⟩ := secondOwns
  obtain ⟨leftWithin, rfl⟩ := List.getElem?_eq_some_iff.1 leftListed
  obtain ⟨rightWithin, rfl⟩ := List.getElem?_eq_some_iff.1 rightListed
  have each := List.pairwise_iff_getElem.1 apart
  rcases Nat.lt_trichotomy first second with before | same | after
  · exact absurd rightOwns ((each _ _ leftWithin rightWithin before).not_owns leftOwns)
  · exact same
  · exact absurd leftOwns ((each _ _ rightWithin leftWithin after).not_owns rightOwns)

end DeviceCatalog.Layout
