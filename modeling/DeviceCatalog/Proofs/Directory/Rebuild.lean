import DeviceCatalog.Proofs.Directory.Preservation
import DeviceCatalog.Proofs.Directory.Typing
import DeviceCatalog.Proofs.Substrate.Conformance

/-!
# Replacing is removing and storing

The batch that replaces a device names only what differs between the old device and the new one. It
leads to the same key space as removing the old device and storing the new one, whatever else the key
space holds, as long as the old device stands in the index of ids and in the name table.
-/

namespace DeviceCatalog

namespace Directory

/-- The device stands in the index of ids, with score zero, and in the name table. -/
structure Indexed (layout : Layout) (space : KeySpace) (device : Device) : Prop where
  ids : ∃ set, space[layout.idIndex]? = some (.sortedSet set) ∧
    set.score? (layout.recordKey device.id) = some .zero
  names : ∃ fields, space[layout.nameIndex]? = some (.hash fields) ∧
    fields[device.name]? = some (layout.recordKey device.id)

end Directory

/-- On the image of a catalog every device of the catalog is indexed. -/
theorem Mirrors.indexed {layout : Layout} {space : KeySpace} {catalog : Catalog} {device : Device}
    (mirrors : Mirrors layout space catalog) (held : catalog.Holds device) :
    Directory.Indexed layout space device := by
  constructor
  · exact mirrors.ids.exists_set ⟨device, held, trivial, rfl, rfl⟩
  · exact mirrors.names.exists_hash ⟨device, held, rfl, rfl⟩

namespace Directory

variable {layout : Layout} {space : KeySpace} {old new : Device} {id : String}

section Effects

variable {first second : Batch} {record ids names : Option Entry → Option Entry}
variable {otherRecord otherIds otherNames : Option Entry → Option Entry}
variable {groups otherGroups : Group → Option Entry → Option Entry}

/-- Two batches about one id that agree on its record and on every index lead to the same key
space. -/
theorem Effects.applyAll_eq (left : Effects layout id first record ids names groups)
    (right : Effects layout id second otherRecord otherIds otherNames otherGroups)
    (records : record space[layout.recordKey id]? = otherRecord space[layout.recordKey id]?)
    (indexed : ids space[layout.idIndex]? = otherIds space[layout.idIndex]?)
    (named : names space[layout.nameIndex]? = otherNames space[layout.nameIndex]?)
    (grouped : ∀ group, groups group space[layout.groupIndex group]? =
      otherGroups group space[layout.groupIndex group]?) :
    space.applyAll first = space.applyAll second := by
  apply Std.ExtTreeMap.ext_getElem?
  intro key
  rw [KeySpace.getElem?_applyAll, KeySpace.getElem?_applyAll]
  by_cases own : key = layout.recordKey id
  · rw [own, left.record, right.record, records]
  · by_cases index : layout.IsIndex key
    · rcases index with rfl | rfl | ⟨group, rfl⟩
      · rw [left.ids, right.ids, indexed]
      · rw [left.names, right.names, named]
      · rw [left.groups, right.groups, grouped]
    · rw [left.elsewhere key _ own index, right.elsewhere key _ own index]

end Effects

theorem applyAll_replacement (admits : layout.Admits new.id) (same : old.id = new.id)
    (indexed : Indexed layout space old) :
    space.applyAll (replacement layout old new) =
      (space.applyAll (removal layout old)).applyAll (insertion layout new) := by
  obtain ⟨set, ids, scored⟩ := indexed.ids
  obtain ⟨fields, names, leads⟩ := indexed.names
  have replaced := @effects_replacement layout old new admits
  have removed := @effects_removal layout old (same ▸ admits)
  rw [same] at scored leads removed
  rw [← KeySpace.applyAll_append]
  refine replaced.applyAll_eq (removed.append (effects_insertion admits)) rfl ?_ ?_ fun group => ?_
  · rw [Command.zadd_zrem, ids, Command.zadd_of_present scored]
  · by_cases kept : old.name = new.name
    · rw [kept] at leads
      rw [if_pos kept, kept, Command.hset_hdel, names, Command.hset_of_present leads]
    · rw [if_neg kept]
  · by_cases joins : new.MemberOf group
    · rw [if_pos joins, if_pos joins]
      split
      next => exact (Command.zadd_zrem _ _ _ _).symm
      next => rfl
    · rw [if_neg joins, if_neg joins]

/-! ## Running the batches -/

variable {memory : Memory}

/-- On a key space whose values are of the kinds that the layout has for their keys, and in which a
device is indexed, the batch that replaces the device leaves the very key space that the batch that
removes it and the batch that stores the new one leave together. All three of them run through. -/
theorem exec_replacement (admits : layout.Admits new.id) (same : old.id = new.id)
    (ready : memory.Ready) (fits : layout.typing.Fits memory.space)
    (indexed : Indexed layout memory.space old) :
    ∃ between final, memory.exec (removal layout old) = (.ok (), between) ∧
      between.exec (insertion layout new) = (.ok (), final) ∧
      memory.exec (replacement layout old new) = (.ok (), final) := by
  let between := { memory with space := memory.space.applyAll (removal layout old) }
  have removes := ready.exec_of_fits fits (@suits_removal layout old)
  have removed : between.Ready := ⟨ready.abortNext, ready.unavailable⟩
  have fitting : layout.typing.Fits between.space := fits.applyAll suits_removal
  have stores := removed.exec_of_fits fitting (suits_insertion admits)
  have replaces := ready.exec_of_fits fits (@suits_replacement layout old new admits)
  rw [applyAll_replacement admits same indexed] at replaces
  exact ⟨_, _, removes, stores, replaces⟩

/-- A device takes a new name and keeps one of its labels. -/
theorem exec_replacement_renamed :
    let old := { Device.plain "a" "b" "s" "p" with labels := ["x", "y", "x"] }
    let new := { Device.plain "a" "c" "s" "q" with labels := ["y"], modified := 7 }
    let space := (∅ : KeySpace).applyAll (insertion .standard old)
    Layout.standard.Admits new.id ∧ Layout.standard.typing.Fits space ∧
      Indexed .standard space old ∧ ∃ final,
        Memory.exec ⟨space, none, false⟩ (replacement .standard old new) = (.ok (), final) := by
  intro old new space
  have admits : Layout.standard.Admits new.id := ⟨by decide, by decide⟩
  have mirrors : Mirrors .standard space ((∅ : Catalog).insert old.id old) :=
    (Mirrors.empty .standard).insertion admits (by decide) (by simp) (by simp [Catalog.Holds])
  have indexed := mirrors.indexed (Catalog.holds_insert.2 (.inl rfl))
  have fits := mirrors.fits
  clear_value space
  obtain ⟨between, final, _, _, replaced⟩ :=
    @exec_replacement .standard old new ⟨space, none, false⟩ admits rfl ⟨rfl, rfl⟩ fits indexed
  exact ⟨admits, fits, indexed, final, replaced⟩

end Directory

end DeviceCatalog
