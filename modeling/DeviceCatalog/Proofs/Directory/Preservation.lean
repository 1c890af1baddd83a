import DeviceCatalog.Proofs.Directory.Upkeep

/-!
# Writes keep the key space the image of a catalog

The three batches of a write, applied to the image of a catalog, give the image of the changed
catalog. Replacing a device touches only what differs between the old device and the new one, which
is enough because the old device stands in every index exactly as it was stored.
-/

namespace DeviceCatalog

namespace Mirrors

open Directory

variable {layout : Layout} {space : KeySpace} {catalog : Catalog} {device old : Device}

/-- A batch about one id leads from the image of one catalog to the image of another one, when the two
differ at that id only and the batch brings the record and every index along. -/
theorem rewrite (mirrors : Mirrors layout space catalog) {later : Catalog} {id : String}
    (valid : later.Valid layout)
    (others : ∀ device, device.id ≠ id → (later.Holds device ↔ catalog.Holds device))
    {batch : Batch} {record ids names : Option Entry → Option Entry}
    {groups : Group → Option Entry → Option Entry}
    (effects : Effects layout id batch record ids names groups)
    (recorded : ∀ device, later.Holds device → device.id = id → ∃ bytes,
      record space[layout.recordKey id]? = some (.string bytes) ∧ Device.decode bytes = .ok device)
    (kept : ∀ entry, record space[layout.recordKey id]? = some entry →
      ∃ device, later.Holds device ∧ device.id = id)
    (rankedIds : Entry.Ranks (ids space[layout.idIndex]?)
      (later.Scored layout (fun _ => True) fun _ => .zero))
    (tabled : Entry.Tables (names space[layout.nameIndex]?) (later.Named layout))
    (rankedGroups : ∀ group, Entry.Ranks (groups group space[layout.groupIndex group]?)
      (later.Scored layout (·.MemberOf group) scoreOf)) :
    Mirrors layout (space.applyAll batch) later := by
  constructor
  · exact valid
  · intro device held
    rw [KeySpace.getElem?_applyAll]
    by_cases own : device.id = id
    · rw [own, effects.record]
      exact recorded device held own
    · have apart : layout.recordKey device.id ≠ layout.recordKey id :=
        fun same => own (Layout.recordKey_injective same)
      rw [effects.elsewhere _ _ apart (valid.admits device held).not_isIndex]
      exact mirrors.records device ((others device own).1 held)
  · rw [KeySpace.getElem?_applyAll, effects.ids]
    exact rankedIds
  · rw [KeySpace.getElem?_applyAll, effects.names]
    exact tabled
  · intro group
    rw [KeySpace.getElem?_applyAll, effects.groups]
    exact rankedGroups group
  · intro key entry present
    rw [KeySpace.getElem?_applyAll] at present
    by_cases own : key = layout.recordKey id
    · rw [own, effects.record] at present
      obtain ⟨device, held, same⟩ := kept entry present
      exact .inl ⟨device, held, by rw [own, same]⟩
    · by_cases index : layout.IsIndex key
      · exact .inr index
      · rw [effects.elsewhere key _ own index] at present
        rcases mirrors.only key entry present with ⟨device, held, rfl⟩ | other
        · have different : device.id ≠ id := fun same => own (congrArg layout.recordKey same)
          exact .inl ⟨device, (others device different).2 held, rfl⟩
        · exact absurd other index

/-- A batch that writes the record of a device stores the device, when it brings every index
along. -/
theorem store (mirrors : Mirrors layout space catalog) (admits : layout.Admits device.id)
    (named : device.name ≠ "")
    (unborne : ∀ other, catalog.Holds other → other.name = device.name → other.id = device.id)
    {batch : Batch} {ids names : Option Entry → Option Entry}
    {groups : Group → Option Entry → Option Entry}
    (effects : Effects layout device.id batch (fun _ => some (.string device.encode)) ids names
      groups)
    (rankedIds : Entry.Ranks (ids space[layout.idIndex]?)
      (Catalog.Scored (catalog.insert device.id device) layout (fun _ => True) fun _ => .zero))
    (tabled : Entry.Tables (names space[layout.nameIndex]?)
      (Catalog.Named (catalog.insert device.id device) layout))
    (rankedGroups : ∀ group, Entry.Ranks (groups group space[layout.groupIndex group]?)
      (Catalog.Scored (catalog.insert device.id device) layout (·.MemberOf group) scoreOf)) :
    Mirrors layout (space.applyAll batch) (catalog.insert device.id device) := by
  have valid := mirrors.valid.insert admits named unborne
  refine mirrors.rewrite valid (fun other different => ?_) effects (fun other held own => ?_)
    (fun _ _ => ⟨device, Catalog.holds_insert.2 (.inl rfl), rfl⟩) rankedIds tabled rankedGroups
  · rw [Catalog.holds_insert]
    constructor
    · rintro (rfl | remaining)
      · exact absurd rfl different
      · exact remaining.2
    · exact fun held => .inr ⟨different, held⟩
  · rcases Catalog.holds_insert.1 held with rfl | remaining
    · exact ⟨other.encode, rfl, Device.decode_encode other⟩
    · exact absurd own remaining.1

/-- Storing a device under a new id and a name that no device bears. -/
theorem insertion (mirrors : Mirrors layout space catalog) (admits : layout.Admits device.id)
    (named : device.name ≠ "") (absent : catalog[device.id]? = none)
    (unborne : ∀ other, catalog.Holds other → other.name ≠ device.name) :
    Mirrors layout (space.applyAll (insertion layout device))
      (catalog.insert device.id device) := by
  have borne : ∀ other, catalog.Holds other → other.name = device.name → other.id = device.id :=
    fun other held same => absurd same (unborne other held)
  refine mirrors.store admits named borne (effects_insertion admits) ?_ ?_ ?_
  · refine (mirrors.ids.zadd _ _ _).congr fun member rank => ?_
    exact (Catalog.scored_insert_of_keep trivial member rank).symm
  · refine (mirrors.names.hset _ _ _).congr fun name key => ?_
    rw [Catalog.named_insert borne, Catalog.erase_of_absent absent]
  · intro group
    split
    next member =>
      refine ((mirrors.groups group).zadd _ _ _).congr fun key rank => ?_
      exact (Catalog.scored_insert_of_keep member key rank).symm
    next stranger =>
      refine (mirrors.groups group).congr fun key rank => ?_
      rw [Catalog.scored_insert_of_not_keep stranger, ← Catalog.scored_erase,
        Catalog.erase_of_absent absent]

/-- Storing a device in the place of another one with the same id. -/
theorem replacement (mirrors : Mirrors layout space catalog) (held : catalog.Holds old)
    (same : old.id = device.id) (named : device.name ≠ "")
    (unborne : ∀ other, catalog.Holds other → other.name = device.name → other.id = device.id) :
    Mirrors layout (space.applyAll (replacement layout old device))
      (catalog.insert device.id device) := by
  have admits : layout.Admits device.id := same ▸ mirrors.valid.admits old held
  refine mirrors.store admits named unborne (effects_replacement admits) ?_ ?_ ?_
  · refine mirrors.ids.congr fun member rank => ?_
    rw [Catalog.scored_insert_of_keep trivial]
    split
    next own =>
      constructor
      · rintro ⟨_, _, _, _, rfl⟩
        rfl
      · rintro rfl
        exact ⟨old, held, trivial, by rw [← own, same], rfl⟩
    next => rfl
  · split
    next kept =>
      refine mirrors.names.congr fun name key => ?_
      exact (Catalog.named_insert_of_kept unborne held same kept name key).symm
    next =>
      refine ((mirrors.names.hdel _ _).hset _ _ _).congr fun name key => ?_
      rw [Catalog.named_insert unborne, ← same, Catalog.named_erase mirrors.valid held]
  · intro group
    split
    next member =>
      refine ((mirrors.groups group).zadd _ _ _).congr fun key rank => ?_
      exact (Catalog.scored_insert_of_keep member key rank).symm
    next stranger =>
      split
      next =>
        refine ((mirrors.groups group).zrem _ _).congr fun key rank => ?_
        exact (Catalog.scored_insert_of_not_keep stranger key rank).symm
      next apart =>
        refine (mirrors.groups group).congr fun key rank => ?_
        rw [Catalog.scored_insert_of_not_keep stranger, ← same]
        exact Catalog.scored_of_not_keep held apart key rank

/-- Removing a stored device. -/
theorem removal (mirrors : Mirrors layout space catalog) (held : catalog.Holds device) :
    Mirrors layout (space.applyAll (removal layout device)) (catalog.erase device.id) := by
  refine mirrors.rewrite (mirrors.valid.erase device.id) (fun other different => ?_)
    (effects_removal (mirrors.valid.admits device held)) (fun other remaining own => ?_) nofun
    ?_ ?_ fun group => ?_
  · rw [Catalog.holds_erase]
    exact ⟨fun remaining => remaining.2, fun otherHeld => ⟨different, otherHeld⟩⟩
  · exact absurd own (Catalog.holds_erase.1 remaining).1
  · exact (mirrors.ids.zrem _ _).congr fun member rank => (Catalog.scored_erase member rank).symm
  · exact (mirrors.names.hdel _ _).congr fun name key =>
      (Catalog.named_erase mirrors.valid held name key).symm
  · split
    next =>
      exact ((mirrors.groups group).zrem _ _).congr fun key rank =>
        (Catalog.scored_erase key rank).symm
    next stranger =>
      refine (mirrors.groups group).congr fun key rank => ?_
      rw [Catalog.scored_erase]
      exact Catalog.scored_of_not_keep held stranger key rank

end Mirrors

end DeviceCatalog
