import DeviceCatalog.Device

/-!
# Families of keys

The five families of keys share nothing, whatever the collection and the separator are, so a write to
one of them never shows in another. All keys but that of the id index are record keys of some path;
the path of a group begins with a letter of its own for each kind of group, and the ids that are
reserved are just the paths of the other families.
-/

namespace DeviceCatalog

/-- A group of devices. -/
inductive Group where
  | service (name : String)
  | profile (name : String)
  | label (label : String)
deriving DecidableEq, Repr

namespace Layout

/-- Key of a group. -/
def groupIndex (layout : Layout) : Group → String
  | .service name => layout.serviceIndex name
  | .profile name => layout.profileIndex name
  | .label label => layout.labelIndex label

/-- What stands after the collection and the separator in the key of a group. -/
def groupPath (layout : Layout) : Group → String
  | .service name => layout.joinKey ["service", "name", ""] ++ name
  | .profile name => layout.joinKey ["profile", "name", ""] ++ name
  | .label label => layout.joinKey ["label", ""] ++ label

theorem groupIndex_eq (layout : Layout) (group : Group) :
    layout.groupIndex group = layout.recordKey (layout.groupPath group) := by
  cases group with
  | service name => exact layout.serviceIndex_eq name
  | profile name => exact layout.profileIndex_eq name
  | label label => exact layout.labelIndex_eq label

theorem recordKey_injective {layout : Layout} {left right : String}
    (same : layout.recordKey left = layout.recordKey right) : left = right := by
  rw [recordKey_eq, recordKey_eq] at same
  exact (String.append_right_inj _).1 same

/-- The letter that the path of a group begins with. -/
def groupLetter : Group → Char
  | .service _ => 's'
  | .profile _ => 'p'
  | .label _ => 'l'

theorem head?_groupPath (layout : Layout) (group : Group) :
    (layout.groupPath group).toList.head? = some (groupLetter group) := by
  cases group <;> simp [groupPath, joinKey, Text.join, groupLetter]

theorem groupPath_injective {layout : Layout} {left right : Group}
    (same : layout.groupPath left = layout.groupPath right) : left = right := by
  have letters := layout.head?_groupPath left
  rw [same, head?_groupPath] at letters
  cases left <;> cases right <;>
    simp_all [groupPath, groupLetter, String.append_right_inj]

theorem groupPath_ne_name (layout : Layout) (group : Group) : layout.groupPath group ≠ "name" := by
  intro same
  have letters := layout.head?_groupPath group
  rw [same] at letters
  cases group <;> simp [groupLetter] at letters

theorem groupPath_ne_empty (layout : Layout) (group : Group) : layout.groupPath group ≠ "" := by
  intro same
  have letters := layout.head?_groupPath group
  rw [same] at letters
  simp at letters

/-- The reserved ids are the paths of the name table and of the groups. -/
theorem isReserved_iff (layout : Layout) (id : String) :
    layout.isReserved id = true ↔ id = "name" ∨ ∃ group, id = layout.groupPath group := by
  simp only [isReserved, Bool.or_eq_true, beq_iff_eq, Text.startsWith_iff]
  constructor
  · rintro (((named | ⟨rest, label⟩) | ⟨rest, service⟩) | ⟨rest, profile⟩)
    · exact .inl named
    · exact .inr ⟨.label rest, label⟩
    · exact .inr ⟨.service rest, service⟩
    · exact .inr ⟨.profile rest, profile⟩
  · rintro (named | ⟨group, path⟩)
    · exact .inl (.inl (.inl named))
    · cases group with
      | service name => exact .inl (.inr ⟨name, path⟩)
      | profile name => exact .inr ⟨name, path⟩
      | label label => exact .inl (.inl (.inr ⟨label, path⟩))

/-- The empty id passes the test, whatever its record key is. -/
theorem isReserved_empty (layout : Layout) : layout.isReserved "" = false := by
  cases reserved : layout.isReserved "" with
  | false => rfl
  | true =>
      rcases (layout.isReserved_iff "").1 reserved with named | ⟨group, path⟩
      · exact absurd named (by decide)
      · have letter := layout.head?_groupPath group
        rw [← path] at letter
        cases letter

/-! ## Keys of different families -/

variable {layout : Layout}

theorem recordKey_eq_idIndex_iff {id : String} :
    layout.recordKey id = layout.idIndex ↔ layout.separator = "" ∧ id = "" := by
  rw [recordKey_eq, idIndex, String.append_assoc]
  constructor
  · intro same
    have empty : layout.separator ++ id = "" := by
      have := congrArg String.toList same
      simpa using this
    simpa using empty
  · rintro ⟨separator, rfl⟩
    simp [separator]

theorem groupIndex_injective {left right : Group}
    (same : layout.groupIndex left = layout.groupIndex right) : left = right := by
  rw [groupIndex_eq, groupIndex_eq] at same
  exact groupPath_injective (recordKey_injective same)

theorem groupIndex_ne_idIndex (group : Group) : layout.groupIndex group ≠ layout.idIndex := by
  rw [groupIndex_eq, Ne, recordKey_eq_idIndex_iff]
  exact fun same => layout.groupPath_ne_empty group same.2

theorem groupIndex_ne_nameIndex (group : Group) : layout.groupIndex group ≠ layout.nameIndex := by
  rw [groupIndex_eq]
  intro same
  exact layout.groupPath_ne_name group (recordKey_injective same)

theorem nameIndex_ne_idIndex : layout.nameIndex ≠ layout.idIndex := by
  intro same
  have := (recordKey_eq_idIndex_iff.1 same).2
  contradiction

/-- An id under which a device can be stored. -/
structure Admits (layout : Layout) (id : String) : Prop where
  nonempty : id ≠ ""
  unreserved : layout.isReserved id = false

namespace Admits

variable {id : String}

theorem ne_idIndex (admits : layout.Admits id) : layout.recordKey id ≠ layout.idIndex := by
  rw [Ne, recordKey_eq_idIndex_iff]
  exact fun same => admits.nonempty same.2

theorem ne_nameIndex (admits : layout.Admits id) : layout.recordKey id ≠ layout.nameIndex := by
  intro same
  have reserved := (layout.isReserved_iff id).2 (.inl (recordKey_injective same))
  rw [admits.unreserved] at reserved
  contradiction

theorem ne_groupIndex (admits : layout.Admits id) (group : Group) :
    layout.recordKey id ≠ layout.groupIndex group := by
  rw [groupIndex_eq]
  intro same
  have reserved := (layout.isReserved_iff id).2 (.inr ⟨group, recordKey_injective same⟩)
  rw [admits.unreserved] at reserved
  contradiction

end Admits

end Layout

end DeviceCatalog
