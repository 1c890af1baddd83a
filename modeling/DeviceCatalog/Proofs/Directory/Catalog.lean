import DeviceCatalog.Device
import DeviceCatalog.Proofs.Layout.Families
import DeviceCatalog.Score

/-!
# Catalogs

What a directory stores, apart from how it is stored: one finite map from ids to devices. The
relations that the indexes keep (which record keys have which score, which names lead to which record
key) are read off the catalog here, together with what storing and removing a device do to them.
-/

namespace DeviceCatalog

/-- A finite map from ids to devices. -/
abbrev Catalog := Text.Map Device

namespace Catalog

/-- The device is in the catalog, under its own id. -/
def Holds (catalog : Catalog) (device : Device) : Prop := catalog[device.id]? = some device

/-- A catalog that a directory can store: each device stands under its own id, which the layout
admits, and has a name of its own. -/
structure Valid (catalog : Catalog) (layout : Layout) : Prop where
  keyed : ∀ (id : String) (device : Device), catalog[id]? = some device → device.id = id
  admits : ∀ device, catalog.Holds device → layout.Admits device.id
  named : ∀ device, catalog.Holds device → device.name ≠ ""
  distinct : ∀ left right, catalog.Holds left → catalog.Holds right → left.name = right.name →
    left = right

/-- Record keys of the devices of one kind, each with its score. -/
def Scored (catalog : Catalog) (layout : Layout) (keep : Device → Prop) (score : Device → Score)
    (member : String) (rank : Score) : Prop :=
  ∃ device, catalog.Holds device ∧ keep device ∧ member = layout.recordKey device.id ∧
    rank = score device

/-- Names of the devices, each with the record key. -/
def Named (catalog : Catalog) (layout : Layout) (name key : String) : Prop :=
  ∃ device, catalog.Holds device ∧ name = device.name ∧ key = layout.recordKey device.id

variable {catalog : Catalog} {layout : Layout} {device other : Device} {id : String}

theorem Valid.lookup_iff (valid : catalog.Valid layout) :
    catalog[id]? = some device ↔ catalog.Holds device ∧ device.id = id := by
  constructor
  · intro found
    have same := valid.keyed id device found
    exact ⟨by rwa [Holds, same], same⟩
  · rintro ⟨held, rfl⟩
    exact held

theorem Valid.mem_iff (valid : catalog.Valid layout) {id : String} :
    id ∈ catalog ↔ ∃ device, catalog.Holds device ∧ device.id = id := by
  rw [Std.ExtTreeMap.mem_iff_isSome_getElem?, Option.isSome_iff_exists]
  simp only [valid.lookup_iff]

theorem Valid.exists_mem_iff (valid : catalog.Valid layout) :
    (∃ id, id ∈ catalog) ↔ ∃ device, catalog.Holds device := by
  simp only [valid.mem_iff]
  exact ⟨fun ⟨_, device, held, _⟩ => ⟨device, held⟩, fun ⟨device, held⟩ => ⟨_, device, held, rfl⟩⟩

theorem Valid.not_mem_empty (valid : catalog.Valid layout) : "" ∉ catalog := by
  rw [valid.mem_iff]
  rintro ⟨device, held, empty⟩
  exact (valid.admits device held).nonempty empty

theorem Holds.eq_of_id (held : catalog.Holds device) (same : catalog.Holds other)
    (ids : device.id = other.id) : device = other := by
  rw [Holds, ids] at held
  exact Option.some.inj (held.symm.trans same)

/-! ## Storing a device -/

theorem holds_insert :
    Holds (catalog.insert device.id device) other ↔
      other = device ∨ other.id ≠ device.id ∧ catalog.Holds other := by
  rw [Holds, Text.Map.lookup_insert]
  by_cases same : device.id = other.id
  · rw [if_pos same]
    constructor
    · intro found
      exact .inl (Option.some.inj found).symm
    · rintro (rfl | ⟨different, _⟩)
      · rfl
      · exact absurd same.symm different
  · rw [if_neg same]
    constructor
    · exact fun held => .inr ⟨Ne.symm same, held⟩
    · rintro (rfl | ⟨_, held⟩)
      · exact absurd rfl same
      · exact held

/-- A device can be stored when the layout admits its id and no device with another id bears its
name. -/
theorem Valid.insert (valid : catalog.Valid layout) (admits : layout.Admits device.id)
    (named : device.name ≠ "")
    (unborne : ∀ other, catalog.Holds other → other.name = device.name → other.id = device.id) :
    Valid (catalog.insert device.id device) layout := by
  constructor
  · intro id found lookup
    rw [Text.Map.lookup_insert] at lookup
    split at lookup
    next same =>
      cases lookup
      exact same
    next => exact valid.keyed id found lookup
  · intro other held
    rcases holds_insert.1 held with rfl | ⟨_, held⟩
    · exact admits
    · exact valid.admits other held
  · intro other held
    rcases holds_insert.1 held with rfl | ⟨_, held⟩
    · exact named
    · exact valid.named other held
  · intro left right leftMember rightMember same
    rcases holds_insert.1 leftMember with rfl | ⟨leftOther, leftHeld⟩ <;>
      rcases holds_insert.1 rightMember with rfl | ⟨rightOther, rightHeld⟩
    · rfl
    · exact absurd (unborne right rightHeld same.symm) rightOther
    · exact absurd (unborne left leftHeld same) leftOther
    · exact valid.distinct left right leftHeld rightHeld same

variable {keep : Device → Prop} {score : Device → Score}

/-- Among the scored record keys a stored device stands with its score. -/
theorem scored_insert_of_keep (kept : keep device) (member : String) (rank : Score) :
    Scored (catalog.insert device.id device) layout keep score member rank ↔
      if layout.recordKey device.id = member then rank = score device
      else catalog.Scored layout keep score member rank := by
  split
  next same =>
    constructor
    · rintro ⟨other, held, _, key, rfl⟩
      rcases holds_insert.1 held with rfl | ⟨different, _⟩
      · rfl
      · exact absurd (Layout.recordKey_injective (key.symm.trans same.symm)) different
    · exact fun ranked => ⟨device, holds_insert.2 (.inl rfl), kept, same.symm, ranked⟩
  next apart =>
    constructor
    · rintro ⟨other, held, keeps, rfl, ranked⟩
      rcases holds_insert.1 held with rfl | ⟨_, held⟩
      · exact absurd rfl apart
      · exact ⟨other, held, keeps, rfl, ranked⟩
    · rintro ⟨other, held, keeps, rfl, ranked⟩
      have different : other.id ≠ device.id := fun ids => apart (congrArg layout.recordKey ids.symm)
      exact ⟨other, holds_insert.2 (.inr ⟨different, held⟩), keeps, rfl, ranked⟩

/-- Without the devices of one id, the scored record keys are those of before without the key of this
id. -/
theorem scored_iff_of_holds {after : Catalog}
    (holds : ∀ other, keep other → (after.Holds other ↔ other.id ≠ id ∧ catalog.Holds other))
    (member : String) (rank : Score) :
    after.Scored layout keep score member rank ↔
      layout.recordKey id ≠ member ∧ catalog.Scored layout keep score member rank := by
  constructor
  · rintro ⟨other, held, keeps, rfl, ranked⟩
    obtain ⟨different, held⟩ := (holds other keeps).1 held
    refine ⟨fun same => different (Layout.recordKey_injective same).symm, ?_⟩
    exact ⟨other, held, keeps, rfl, ranked⟩
  · rintro ⟨apart, other, held, keeps, rfl, ranked⟩
    have different : other.id ≠ id := fun ids => apart (congrArg layout.recordKey ids.symm)
    exact ⟨other, (holds other keeps).2 ⟨different, held⟩, keeps, rfl, ranked⟩

/-- Among the scored record keys a stored device does not stand when it is not of the kind. -/
theorem scored_insert_of_not_keep (dropped : ¬ keep device) (member : String) (rank : Score) :
    Scored (catalog.insert device.id device) layout keep score member rank ↔
      layout.recordKey device.id ≠ member ∧ catalog.Scored layout keep score member rank := by
  refine scored_iff_of_holds (fun other keeps => ?_) member rank
  have different : other ≠ device := fun same => dropped (same ▸ keeps)
  rw [holds_insert, or_iff_right different]

/-! ## Removing a device -/

theorem holds_erase :
    Holds (catalog.erase id) other ↔ other.id ≠ id ∧ catalog.Holds other := by
  rw [Holds, Text.Map.lookup_erase]
  by_cases same : id = other.id
  · simp [same]
  · rw [if_neg same]
    exact ⟨fun held => ⟨Ne.symm same, held⟩, fun held => held.2⟩

theorem Valid.erase (valid : catalog.Valid layout) (id : String) :
    Valid (catalog.erase id) layout := by
  constructor
  · intro name found lookup
    rw [Text.Map.lookup_erase] at lookup
    split at lookup
    next => cases lookup
    next => exact valid.keyed name found lookup
  · exact fun other held => valid.admits other (holds_erase.1 held).2
  · exact fun other held => valid.named other (holds_erase.1 held).2
  · exact fun left right leftHeld rightHeld same =>
      valid.distinct left right (holds_erase.1 leftHeld).2 (holds_erase.1 rightHeld).2 same

theorem scored_erase (member : String) (rank : Score) :
    Scored (catalog.erase id) layout keep score member rank ↔
      layout.recordKey id ≠ member ∧ catalog.Scored layout keep score member rank :=
  scored_iff_of_holds (fun _ _ => holds_erase) member rank

/-- A stored device that is not of the kind has no place among the scored record keys. -/
theorem scored_of_not_keep (held : catalog.Holds device) (dropped : ¬ keep device)
    (member : String) (rank : Score) :
    catalog.Scored layout keep score member rank ↔
      layout.recordKey device.id ≠ member ∧ catalog.Scored layout keep score member rank := by
  constructor
  · rintro ⟨other, otherHeld, keeps, rfl, ranked⟩
    refine ⟨fun own => dropped ?_, other, otherHeld, keeps, rfl, ranked⟩
    exact held.eq_of_id otherHeld (Layout.recordKey_injective own) ▸ keeps
  · exact fun scored => scored.2

theorem named_erase (valid : catalog.Valid layout) (held : catalog.Holds device)
    (name key : String) :
    Named (catalog.erase device.id) layout name key ↔
      device.name ≠ name ∧ catalog.Named layout name key := by
  constructor
  · rintro ⟨other, member, rfl, rfl⟩
    obtain ⟨different, otherHeld⟩ := holds_erase.1 member
    refine ⟨fun same => different ?_, other, otherHeld, rfl, rfl⟩
    rw [valid.distinct device other held otherHeld same]
  · rintro ⟨apart, other, otherHeld, rfl, rfl⟩
    have different : other.id ≠ device.id := by
      intro ids
      rw [otherHeld.eq_of_id held ids] at apart
      exact apart rfl
    exact ⟨other, holds_erase.2 ⟨different, otherHeld⟩, rfl, rfl⟩

/-! ## Storing a device over another one -/

/-- A name leads to a stored device that bears it, and otherwise where it led without the device that
had the id before. -/
theorem named_insert
    (unborne : ∀ other, catalog.Holds other → other.name = device.name → other.id = device.id)
    (name key : String) :
    Named (catalog.insert device.id device) layout name key ↔
      if device.name = name then key = layout.recordKey device.id
      else Named (catalog.erase device.id) layout name key := by
  split
  next same =>
    constructor
    · rintro ⟨other, member, rfl, rfl⟩
      rcases holds_insert.1 member with rfl | ⟨different, held⟩
      · rfl
      · exact absurd (unborne other held same.symm) different
    · exact fun leads => ⟨device, holds_insert.2 (.inl rfl), same.symm, leads⟩
  next apart =>
    constructor
    · rintro ⟨other, member, rfl, rfl⟩
      rcases holds_insert.1 member with rfl | remaining
      · exact absurd rfl apart
      · exact ⟨other, holds_erase.2 remaining, rfl, rfl⟩
    · rintro ⟨other, member, rfl, rfl⟩
      exact ⟨other, holds_insert.2 (.inr (holds_erase.1 member)), rfl, rfl⟩

/-- A device that takes the place of another one with the same name leaves every name where it
leads. -/
theorem named_insert_of_kept
    (unborne : ∀ other, catalog.Holds other → other.name = device.name → other.id = device.id)
    (held : catalog.Holds other) (same : other.id = device.id) (kept : other.name = device.name)
    (name key : String) :
    Named (catalog.insert device.id device) layout name key ↔ catalog.Named layout name key := by
  constructor
  · rintro ⟨bearer, member, rfl, rfl⟩
    rcases holds_insert.1 member with rfl | ⟨_, bearerHeld⟩
    · exact ⟨other, held, kept.symm, by rw [same]⟩
    · exact ⟨bearer, bearerHeld, rfl, rfl⟩
  · rintro ⟨bearer, bearerHeld, rfl, rfl⟩
    by_cases own : bearer.id = device.id
    · have bearers := bearerHeld.eq_of_id held (own.trans same.symm)
      exact ⟨device, holds_insert.2 (.inl rfl), by rw [bearers, kept], by rw [own]⟩
    · exact ⟨bearer, holds_insert.2 (.inr ⟨own, bearerHeld⟩), rfl, rfl⟩

/-- An id that is not there takes no device with it. -/
theorem erase_of_absent (absent : catalog[id]? = none) : catalog.erase id = catalog := by
  apply Text.Map.erase_of_absent
  rw [Std.ExtTreeMap.contains_eq_isSome_getElem?, absent]
  rfl

end Catalog

end DeviceCatalog
