import DeviceCatalog.Directory.Index
import DeviceCatalog.Proofs.Directory.Catalog
import DeviceCatalog.Proofs.Substrate.Contents

/-!
# The key space as the image of a catalog

What a directory stores is one finite map from ids to devices. The key space repeats it in six kinds
of structure: one record for each device, the set of ids, the name table, and a group for each
service, profile and label. `Mirrors` says that the key space holds the image of a catalog and
nothing else, so a catalog that is mirrored is determined by the key space.
-/

namespace DeviceCatalog

namespace Device

/-- Whether the device belongs to a group. -/
def MemberOf (device : Device) : Group → Prop
  | .service name => device.service = name
  | .profile name => device.profile = name
  | .label label => label ∈ device.labels

instance (device : Device) (group : Group) : Decidable (device.MemberOf group) :=
  match group with
  | .service name => inferInstanceAs (Decidable (device.service = name))
  | .profile name => inferInstanceAs (Decidable (device.profile = name))
  | .label label => inferInstanceAs (Decidable (label ∈ device.labels))

/-- The keys of the groups that a device belongs to. -/
theorem mem_groupKeys {device : Device} {layout : Layout} {key : String} :
    key ∈ (device.groupKeys layout).toList ↔
      ∃ group, device.MemberOf group ∧ key = layout.groupIndex group := by
  have listed : key ∈ (device.groupKeys layout).toList ↔
      key = layout.serviceIndex device.service ∨ key = layout.profileIndex device.profile ∨
        ∃ label ∈ device.labels, layout.labelIndex label = key := by
    simp [groupKeys, labelSet]
  rw [listed]
  constructor
  · rintro (service | profile | ⟨label, member, rfl⟩)
    · exact ⟨.service device.service, rfl, service⟩
    · exact ⟨.profile device.profile, rfl, profile⟩
    · exact ⟨.label label, member, rfl⟩
  · rintro ⟨group, member, rfl⟩
    cases group with
    | service name => exact .inl (congrArg layout.serviceIndex member.symm)
    | profile name => exact .inr (.inl (congrArg layout.profileIndex member.symm))
    | label label => exact .inr (.inr ⟨label, member, rfl⟩)

theorem nodup_groupKeys (device : Device) (layout : Layout) :
    (device.groupKeys layout).toList.Nodup := by
  simpa [List.Nodup] using (device.groupKeys layout).distinct_toList

end Device

/-- A key that belongs to an index, whatever is stored. -/
def Layout.IsIndex (layout : Layout) (key : String) : Prop :=
  key = layout.idIndex ∨ key = layout.nameIndex ∨ ∃ group, key = layout.groupIndex group

namespace Layout

variable {layout : Layout}

theorem isIndex_idIndex : layout.IsIndex layout.idIndex := .inl rfl

theorem isIndex_nameIndex : layout.IsIndex layout.nameIndex := .inr (.inl rfl)

theorem isIndex_groupIndex (group : Group) : layout.IsIndex (layout.groupIndex group) :=
  .inr (.inr ⟨group, rfl⟩)

theorem Admits.not_isIndex {id : String} (admits : layout.Admits id) :
    ¬ layout.IsIndex (layout.recordKey id) := by
  rintro (ids | names | ⟨group, groups⟩)
  · exact admits.ne_idIndex ids
  · exact admits.ne_nameIndex names
  · exact admits.ne_groupIndex group groups

end Layout

/-- The key space is exactly the image of a catalog. -/
structure Mirrors (layout : Layout) (space : KeySpace) (catalog : Catalog) : Prop where
  valid : catalog.Valid layout
  /-- The record of a device reads as the device. -/
  records : ∀ device, catalog.Holds device → ∃ bytes,
    space[layout.recordKey device.id]? = some (.string bytes) ∧ Device.decode bytes = .ok device
  /-- The index of ids has every record key, with score zero. -/
  ids : Entry.Ranks space[layout.idIndex]? (catalog.Scored layout (fun _ => True) fun _ => .zero)
  /-- The name table leads from every name to the record key. -/
  names : Entry.Tables space[layout.nameIndex]? (catalog.Named layout)
  /-- A group has the record keys of its devices, scored by the time of the last write. -/
  groups : ∀ group, Entry.Ranks space[layout.groupIndex group]?
    (catalog.Scored layout (·.MemberOf group) Directory.scoreOf)
  /-- There is no other key. -/
  only : ∀ (key : String) (entry : Entry), space[key]? = some entry →
    (∃ device, catalog.Holds device ∧ key = layout.recordKey device.id) ∨ layout.IsIndex key

namespace Mirrors

variable {layout : Layout} {space : KeySpace} {left right : Catalog}

theorem empty (layout : Layout) : Mirrors layout ∅ ∅ := by
  have vacant : ∀ device, ¬ Catalog.Holds ∅ device := by
    intro device held
    simp [Catalog.Holds] at held
  have absent : ∀ key : String, (∅ : KeySpace)[key]? = none := by simp
  constructor
  · constructor
    · intro id device found
      simp at found
    · exact fun device held => absurd held (vacant device)
    · exact fun device held => absurd held (vacant device)
    · exact fun left _ held => absurd held (vacant left)
  · exact fun device held => absurd held (vacant device)
  · rw [absent]
    exact Entry.ranks_none fun _ _ scored => scored.elim fun device found => vacant device found.1
  · rw [absent]
    exact Entry.tables_none fun _ _ named => named.elim fun device found => vacant device found.1
  · intro group
    rw [absent]
    exact Entry.ranks_none fun _ _ scored => scored.elim fun device found => vacant device found.1
  · intro key entry held
    rw [absent] at held
    cases held

/-- A device of one catalog is a device of every catalog with the same image. -/
theorem holds_of_mirrors (mirrors : Mirrors layout space left) (others : Mirrors layout space right)
    {device : Device} (held : left.Holds device) : right.Holds device := by
  obtain ⟨bytes, record, decoded⟩ := mirrors.records device held
  rcases others.only _ _ record with ⟨other, otherHeld, same⟩ | index
  · obtain ⟨otherBytes, otherRecord, otherDecoded⟩ := others.records other otherHeld
    rw [← same, record] at otherRecord
    cases otherRecord
    rw [decoded] at otherDecoded
    cases otherDecoded
    exact otherHeld
  · exact absurd index (mirrors.valid.admits device held).not_isIndex

/-- The key space determines the catalog. -/
theorem unique (mirrors : Mirrors layout space left) (others : Mirrors layout space right) :
    left = right := by
  apply Std.ExtTreeMap.ext_getElem?
  intro id
  apply Option.ext
  intro device
  rw [mirrors.valid.lookup_iff, others.valid.lookup_iff]
  constructor
  · exact fun found => ⟨mirrors.holds_of_mirrors others found.1, found.2⟩
  · exact fun found => ⟨others.holds_of_mirrors mirrors found.1, found.2⟩

end Mirrors

end DeviceCatalog
