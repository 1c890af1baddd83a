import DeviceCatalog.Proofs.Layout.Families
import Mathlib.Data.Set.Insert
import Mathlib.Data.Set.Operations

/-!
# Reserved ids

The keys of the indexes come in five families, none of which shares a key with another one, whatever
the collection and the separator are. The test of an id is exact: it refuses the ids whose record key
is a key of some index, and no other id but the empty one has such a record key.
-/

namespace DeviceCatalog.Layout

/-- The keys of the indexes: that of the ids, that of the names, and those of the groups by service,
by profile and by label. -/
def indexFamilies (layout : Layout) : List (Set String) :=
  [{layout.idIndex}, {layout.nameIndex}, Set.range layout.serviceIndex,
    Set.range layout.profileIndex, Set.range layout.labelIndex]

variable (layout : Layout)

/-! Each kind of group is a part of all groups, whose keys are known to differ. -/

theorem serviceIndex_injective : Function.Injective layout.serviceIndex := by
  intro left right same
  exact Group.service.inj (@groupIndex_injective layout (.service left) (.service right) same)

theorem profileIndex_injective : Function.Injective layout.profileIndex := by
  intro left right same
  exact Group.profile.inj (@groupIndex_injective layout (.profile left) (.profile right) same)

theorem labelIndex_injective : Function.Injective layout.labelIndex := by
  intro left right same
  exact Group.label.inj (@groupIndex_injective layout (.label left) (.label right) same)

/-- Groups of two kinds have no key in common. -/
theorem not_mem_range_groups (first second : String → Group)
    (apart : ∀ left right, first left ≠ second right) :
    ∀ key ∈ Set.range fun name => layout.groupIndex (first name),
      key ∉ Set.range fun name => layout.groupIndex (second name) := by
  rintro _ ⟨left, rfl⟩ ⟨right, same⟩
  exact apart left right (groupIndex_injective same.symm)

/-- A key that no group has is in none of the families of groups. -/
theorem not_mem_range_of_outside {key : String} (outside : ∀ group, layout.groupIndex group ≠ key)
    (kind : String → Group) : key ∉ Set.range fun name => layout.groupIndex (kind name) := by
  rintro ⟨name, same⟩
  exact outside (kind name) same

theorem pairwise_indexFamilies :
    layout.indexFamilies.Pairwise fun first second => ∀ key ∈ first, key ∉ second := by
  have ids := layout.not_mem_range_of_outside groupIndex_ne_idIndex
  have names := layout.not_mem_range_of_outside groupIndex_ne_nameIndex
  have services := layout.not_mem_range_groups .service
  have profiles := layout.not_mem_range_groups .profile
  simp only [indexFamilies, List.pairwise_cons, List.mem_cons, List.not_mem_nil, or_false,
    forall_eq_or_imp, forall_eq, Set.mem_singleton_iff]
  refine ⟨⟨nameIndex_ne_idIndex.symm, ids .service, ids .profile, ids .label⟩,
    ⟨names .service, names .profile, names .label⟩, ⟨services .profile ?_, services .label ?_⟩,
    profiles .label ?_, by simp, .nil⟩
  all_goals
    intro left right same
    cases same

/-- A key of some index is that of the ids, that of the names or that of a group. -/
theorem exists_family_iff {key : String} :
    (∃ family ∈ layout.indexFamilies, key ∈ family) ↔
      key = layout.idIndex ∨ key = layout.nameIndex ∨ ∃ group, key = layout.groupIndex group := by
  simp only [indexFamilies, List.mem_cons, List.not_mem_nil, or_false, exists_eq_or_imp,
    exists_eq_left, Set.mem_singleton_iff, Set.mem_range]
  refine or_congr_right (or_congr_right ⟨?_, ?_⟩)
  · rintro (⟨name, rfl⟩ | ⟨name, rfl⟩ | ⟨label, rfl⟩)
    · exact ⟨.service name, rfl⟩
    · exact ⟨.profile name, rfl⟩
    · exact ⟨.label label, rfl⟩
  · rintro ⟨group, rfl⟩
    cases group with
    | service name => exact .inl ⟨name, rfl⟩
    | profile name => exact .inr (.inl ⟨name, rfl⟩)
    | label label => exact .inr (.inr ⟨label, rfl⟩)

/-- The ids whose record key is a key of some index are those that are refused. -/
theorem isReserved_iff_exists_family {id : String} (nonempty : id ≠ "") :
    layout.isReserved id = true ↔ ∃ family ∈ layout.indexFamilies, layout.recordKey id ∈ family := by
  rw [exists_family_iff, recordKey_eq_idIndex_iff, isReserved_iff]
  constructor
  · rintro (rfl | ⟨group, rfl⟩)
    · exact .inr (.inl rfl)
    · exact .inr (.inr ⟨group, (layout.groupIndex_eq group).symm⟩)
  · rintro (⟨_, empty⟩ | named | ⟨group, path⟩)
    · exact absurd empty nonempty
    · exact .inl (recordKey_injective named)
    · rw [groupIndex_eq] at path
      exact .inr ⟨group, recordKey_injective path⟩

/-- Under any layout different ids have different record keys, a key of an index belongs to one family
and there to one name, and the record key of an id that is not empty is a key of an index exactly when
the id is reserved. -/
theorem keys_distinct (layout : Layout) :
    Function.Injective layout.recordKey ∧
      (Function.Injective layout.serviceIndex ∧ Function.Injective layout.profileIndex ∧
        Function.Injective layout.labelIndex) ∧
      layout.indexFamilies.Pairwise (fun first second => ∀ key ∈ first, key ∉ second) ∧
      ∀ id, id ≠ "" →
        (layout.isReserved id = true ↔
          ∃ family ∈ layout.indexFamilies, layout.recordKey id ∈ family) :=
  ⟨fun _ _ => recordKey_injective,
    ⟨layout.serviceIndex_injective, layout.profileIndex_injective, layout.labelIndex_injective⟩,
    layout.pairwise_indexFamilies, fun _ => layout.isReserved_iff_exists_family⟩

/-- Without a collection and a separator, an id that goes on from the word for labels would take the
key of a group. -/
theorem keys_distinct_bare :
    "labels" ≠ "" ∧ ∃ family ∈ (Layout.mk "" "").indexFamilies,
      (Layout.mk "" "").recordKey "labels" ∈ family := by
  have nonempty : "labels" ≠ "" := by decide
  exact ⟨nonempty, ((keys_distinct ⟨"", ""⟩).2.2.2 "labels" nonempty).1 (by decide)⟩

end DeviceCatalog.Layout
