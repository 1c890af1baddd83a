import DeviceCatalog.Proofs.Directory.Frame

/-!
# What a removal by id removes

A removal by id reads the record that stands under the key of the id and then goes by the id in that
record. The two are the same in every key space that the directory has written. A record that was
written by someone else may carry the id of another device, and then it is that device which is removed,
while the record that was read stays where it is.
-/

namespace DeviceCatalog.Directory

open DeviceCatalog.Directory.Action

variable {layout : Layout} {id : String} {device : Device}

/-- The device with an id is gone: its record is, and its entry in the index of ids, but no record of
another device. -/
structure Removed (layout : Layout) (id : String) (before after : KeySpace) : Prop where
  record : after[layout.recordKey id]? = none
  unlisted : ¬ Entry.Lists after[layout.idIndex]? (layout.recordKey id)
  others : ∀ other, layout.Admits other → other ≠ id →
    after[layout.recordKey other]? = before[layout.recordKey other]?

/-- The batch of a removal deletes the record under the id of its device and touches no other record,
even if that id is one that the layout does not admit. -/
theorem recordKey_removal (admits : layout.Admits id) (space : KeySpace) :
    (space.applyAll (removal layout device))[layout.recordKey id]? =
      if id = device.id then none else space[layout.recordKey id]? := by
  rw [KeySpace.getElem?_applyAll]
  split
  next same =>
    subst same
    exact (effects_removal admits).record _
  next different =>
    refine Batch.effectAt_of_forall_ne fun command queued => ?_
    rcases List.mem_append.1 queued with head | left
    · simp only [List.mem_cons, List.not_mem_nil, or_false] at head
      rcases head with rfl | rfl | rfl
      · exact fun same => different (Layout.recordKey_injective same).symm
      · exact admits.ne_idIndex.symm
      · exact admits.ne_nameIndex.symm
    · obtain ⟨key, listed, rfl⟩ := List.mem_map.1 left
      obtain ⟨group, _, rfl⟩ := Device.mem_groupKeys.1 listed
      exact (admits.ne_groupIndex group).symm

/-- The batch of a removal takes the key of its device out of the index of ids, and no other key. -/
theorem lists_removal (admits : layout.Admits device.id) (space : KeySpace) (key : String) :
    Entry.Lists (space.applyAll (removal layout device))[layout.idIndex]? key ↔
      layout.recordKey device.id ≠ key ∧ Entry.Lists space[layout.idIndex]? key := by
  rw [KeySpace.getElem?_applyAll, (effects_removal admits).ids, Entry.lists_zrem]

theorem removed_removal (admits : layout.Admits device.id) (space : KeySpace) :
    Removed layout device.id space (space.applyAll (removal layout device)) where
  record := by rw [recordKey_removal admits, if_pos rfl]
  unlisted := by simp [lists_removal admits]
  others other admitted different := by rw [recordKey_removal admitted, if_neg different]

namespace Request

/-- A removal by id that succeeds, over any link and on any key space, has read a record under the key of
the id. Of all records it removes the one under the id in that record, so the device with the given id is
gone exactly when that is the id in its record. -/
theorem run_deleteById (layout : Layout) {id : String} (admits : layout.Admits id)
    {source : Type} [Clock source] {link : Link} {clock : source}
    (succeeded : (((deleteById id).action layout).run.run link clock).1 = .ok ()) :
    let before := link.memory.space
    let after := (((deleteById id).action layout).run.run link clock).2.1.memory.space
    ∃ device, before.Records (layout.recordKey id) device ∧
      (Removed layout id before after ↔ device.id = id) ∧
      (∀ other, layout.Admits other → after[layout.recordKey other]? =
        if other = device.id then none else before[layout.recordKey other]?) ∧
      (layout.Admits device.id → ∀ key, Entry.Lists after[layout.idIndex]? key ↔
        layout.recordKey device.id ≠ key ∧ Entry.Lists before[layout.idIndex]? key) := by
  intro before after
  have ended := (disciplined_action layout (deleteById id)).evaluate_of_run succeeded
  obtain ⟨device, found, ended⟩ := (reading_deviceById layout id).exists_of_bind ended
  have records := KeySpace.device?_eq_some_iff.1 (device?_of_evaluate_deviceById found)
  have written : after = before.applyAll (removal layout device) := of_evaluate_remove ended
  refine ⟨device, records, ⟨fun removed => ?_, ?_⟩, fun other admitted => ?_, fun admitted key => ?_⟩
  · by_contra different
    obtain ⟨bytes, record, _⟩ := records
    have gone := removed.record
    rw [written, recordKey_removal admits, if_neg (Ne.symm different)] at gone
    rw [KeySpace.bytes?_eq_some_iff, gone] at record
    cases record
  · rintro rfl
    exact written ▸ removed_removal admits before
  · exact written ▸ recordKey_removal admitted before
  · exact written ▸ lists_removal admitted before key

/-- The record of a device is copied to the key of another id. A removal by that id removes the device and
leaves the copy. -/
theorem run_deleteById_copied :
    let device := Device.plain "b" "n" "s" "p"
    let own := Layout.standard.recordKey "b"
    let copy := Layout.standard.recordKey "a"
    let space := (∅ : KeySpace).applyAll (insertion .standard device ++
      [.set copy device.encode, .zadd Layout.standard.idIndex .zero copy])
    let link : Link := { Link.empty with memory := { Memory.empty with space := space } }
    let ran := ((deleteById "a").action .standard).run.run link (⟨0, 1⟩ : ManualClock)
    let after := ran.2.1.memory.space
    Layout.standard.Admits "a" ∧ ran.1 = .ok () ∧
      space[own]? = some (.string device.encode) ∧ space[copy]? = some (.string device.encode) ∧
      after[own]? = none ∧ after[copy]? = some (.string device.encode) ∧
      ¬ Removed .standard "a" space after := by
  intro device own copy space link ran after
  have admits : Layout.standard.Admits "a" := ⟨by decide, by decide⟩
  have admitsOwn : Layout.standard.Admits device.id := ⟨by decide, by decide⟩
  have fits : Layout.standard.typing.Fits space := by
    refine (Mirrors.empty .standard).fits.applyAll fun command queued => ?_
    rcases List.mem_append.1 queued with inserted | added
    · exact suits_insertion admitsOwn command inserted
    · simp only [List.mem_cons, List.not_mem_nil, or_false] at added
      rcases added with rfl | rfl
      · exact .record admits
      · exact .ids
  have held : space[own]? = some (.string device.encode) := by
    have elsewhere : ∀ command ∈ ([.set copy device.encode,
        .zadd Layout.standard.idIndex .zero copy] : Batch), command.key ≠ own := by
      simp only [List.forall_mem_cons, List.not_mem_nil, false_implies, implies_true, and_true]
      exact ⟨by decide, by decide⟩
    rw [KeySpace.getElem?_applyAll, Batch.effectAt_append, Batch.effectAt_of_forall_ne elsewhere]
    exact (effects_insertion admitsOwn).record _
  have copied : space[copy]? = some (.string device.encode) := by
    have set : (Command.set copy device.encode).key = copy := rfl
    have other : (Command.zadd Layout.standard.idIndex .zero copy).key ≠ copy := by decide
    rw [KeySpace.getElem?_applyAll, Batch.effectAt_append, Batch.effectAt_cons_of_eq set,
      Batch.effectAt_cons_of_ne other]
    rfl
  -- From here on the key space is known by its kinds and by the two records.
  clear_value space
  have quiet : link.Quiet := ⟨rfl, rfl, rfl⟩
  obtain ⟨pending, admitted⟩ := fits.check (@suits_removal .standard device)
  have found : (Directory.deviceById .standard "a").run.evaluate space (⟨0, 1⟩ : ManualClock) =
      (.ok device, space, ⟨0, 1⟩) := by
    rw [Directory.deviceById, if_neg (by decide),
      evaluate_bind_of_ok (Mirrors.evaluate_deviceAt?_of_record copied device.decode_encode _)]
    rfl
  have evaluated : ((deleteById "a").action .standard).run.evaluate space (⟨0, 1⟩ : ManualClock) =
      (.ok (), space.applyAll (removal .standard device), ⟨0, 1⟩) :=
    (evaluate_bind_of_ok found).trans (evaluate_commit admitted)
  have succeeded : ran.1 = .ok () :=
    congrArg Prod.fst ((Script.run_of_quiet _ quiet _).2.trans evaluated)
  obtain ⟨other, records, removed, kept, _⟩ := run_deleteById .standard admits succeeded
  have same : other = device := by
    obtain ⟨bytes, record, decoded⟩ := records
    rw [KeySpace.bytes?_eq_some_iff] at record
    cases copied.symm.trans record
    exact Except.ok.inj (decoded.symm.trans device.decode_encode)
  subst same
  refine ⟨admits, succeeded, held, copied, ?_, ?_, ?_⟩
  · exact (kept _ admitsOwn).trans (if_pos rfl)
  · exact (kept _ admits).trans ((if_neg (by decide)).trans copied)
  · exact fun gone => absurd (removed.1 gone) (by decide)

end Request

end DeviceCatalog.Directory
