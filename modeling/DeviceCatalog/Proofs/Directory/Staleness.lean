import DeviceCatalog.Proofs.Directory.Discipline
import DeviceCatalog.Proofs.Directory.Meaning
import DeviceCatalog.Proofs.Directory.Typing
import DeviceCatalog.Proofs.Substrate.Conformance

/-!
# Writes on stale reads

Other writes may run between the reads of a write and its batch, so the batch meets a key space that
need not be the one that was read. What was read decides which records and index entries the batch is
about, but not which kinds of keys it touches: whatever the reads were answered, the batch runs
through on every key space that is well typed for the layout, and leaves it well typed.
-/

namespace DeviceCatalog

/-- The script hands over the batch when its queries are answered by key spaces of the given sort,
each query perhaps by another one, and its clock readings are whatever they are. -/
inductive Script.Submits {result : Type} (answering : KeySpace → Prop) (batch : Batch) :
    Script result → Prop
  | exec (next : Except StorageError Unit → Script result) :
      Submits answering batch (.exec batch next)
  | ask {query : Query} {next : Except StorageError query.Answer → Script result}
      (space : KeySpace) (answers : answering space)
      (rest : Submits answering batch (next (space.answer query))) :
      Submits answering batch (.ask query next)
  | readClock {told : Int64 → Script result} (time : Int64)
      (rest : Submits answering batch (told time)) : Submits answering batch (.readClock told)

/-- Every key of the layout is absent or holds what it is meant for, and a record reads as a device
with the id that it is stored under. Nothing is said of how the entries fit together. -/
structure Layout.WellTyped (layout : Layout) (space : KeySpace) : Prop where
  ids : ∀ entry, space[layout.idIndex]? = some entry → entry.kind = .sortedSet
  names : ∀ entry, space[layout.nameIndex]? = some entry → entry.kind = .hash
  groups : ∀ group entry, space[layout.groupIndex group]? = some entry → entry.kind = .sortedSet
  records : ∀ id entry, layout.Admits id → space[layout.recordKey id]? = some entry →
    ∃ bytes device, entry = .string bytes ∧ Device.decode bytes = .ok device ∧ device.id = id

namespace Directory

variable {layout : Layout} {space : KeySpace} {answering : KeySpace → Prop} {batch : Batch}

/-! ## What a write submits -/

/-- The batch stores, replaces or removes some device. Only a device that is stored has to have an id
that the layout admits, since a record may name any id as its own. -/
inductive IsWrite (layout : Layout) : Batch → Prop
  | insertion {device : Device} (admits : layout.Admits device.id) :
      IsWrite layout (insertion layout device)
  | replacement {old new : Device} (admits : layout.Admits new.id) :
      IsWrite layout (replacement layout old new)
  | removal (device : Device) : IsWrite layout (removal layout device)

namespace Action

variable {result other : Type} {script : Script (Except Error result)}

/-- Reading submits nothing, so what is submitted comes from what follows it. -/
theorem Reading.exists_submits {next : Except Error result → Script other} (reading : Reading script)
    (submits : (script.bind next).Submits answering batch) :
    ∃ outcome, (next outcome).Submits answering batch := by
  induction reading with
  | done outcome => exact ⟨outcome, submits⟩
  | @ask query answered description fails _ ih =>
      cases submits with
      | ask read answers rest =>
          cases told : read.answer query with
          | error failure =>
              simp only [told, fails] at rest
              exact ⟨_, rest⟩
          | ok answer =>
              rw [told] at rest
              exact ih answer rest

theorem Reading.not_submits (reading : Reading script) : ¬ script.Submits answering batch := by
  intro submits
  rw [← script.bind_done] at submits
  obtain ⟨outcome, ended⟩ := reading.exists_submits submits
  cases ended

theorem Reading.submits_of_bind {action : Action result} {continuation : result → Action other}
    (reading : Reading action.run)
    (submits : (action >>= continuation).run.Submits answering batch) :
    ∃ value, (continuation value).run.Submits answering batch := by
  rw [ExceptT.run_bind] at submits
  obtain ⟨outcome, following⟩ := reading.exists_submits submits
  cases outcome with
  | error failure => cases following
  | ok value => exact ⟨value, following⟩

theorem exists_eq_of_submits_store {description : String} {stamped : Int64 → Device}
    {queued : Device → Batch}
    (submits : (do
      let now ← Action.readClock
      Action.commit description (queued (stamped now))
      return stamped now : Action Device).run.Submits answering batch) :
    ∃ now, batch = queued (stamped now) := by
  cases submits with
  | readClock time rest =>
      cases rest
      exact ⟨time, rfl⟩

end Action

theorem isWrite_of_create {device : Device}
    (submits : (create layout device).run.Submits answering batch) : IsWrite layout batch := by
  rw [create, Catalog.validateFor_eq] at submits
  cases accepted : Catalog.refusal? layout device with
  | some reason =>
      rw [accepted] at submits
      cases submits
  | none =>
      obtain ⟨admits, _⟩ := Catalog.admits_of_refusal? accepted
      rw [accepted] at submits
      obtain ⟨taken, submits⟩ := (reading_existsId layout device.id).submits_of_bind submits
      cases taken with
      | true => cases submits
      | false =>
          obtain ⟨borne, submits⟩ := (reading_existsName layout device.name).submits_of_bind submits
          cases borne with
          | true => cases submits
          | false =>
              obtain ⟨now, rfl⟩ := Action.exists_eq_of_submits_store submits
              exact .insertion admits

theorem isWrite_of_update {device : Device}
    (submits : (update layout device).run.Submits answering batch) : IsWrite layout batch := by
  rw [update, Catalog.validateFor_eq] at submits
  cases accepted : Catalog.refusal? layout device with
  | some reason =>
      rw [accepted] at submits
      cases submits
  | none =>
      obtain ⟨admits, _⟩ := Catalog.admits_of_refusal? accepted
      rw [accepted] at submits
      obtain ⟨old, submits⟩ := (reading_deviceById layout device.id).submits_of_bind submits
      by_cases renamed : old.name ≠ device.name
      · rw [if_pos renamed] at submits
        obtain ⟨borne, submits⟩ := (reading_existsName layout device.name).submits_of_bind submits
        cases borne with
        | true => cases submits
        | false =>
            obtain ⟨now, rfl⟩ := Action.exists_eq_of_submits_store submits
            exact .replacement admits
      · rw [if_neg renamed] at submits
        obtain ⟨now, rfl⟩ := Action.exists_eq_of_submits_store submits
        exact .replacement admits

theorem isWrite_of_remove {find : Action Device} (reading : Action.Reading find.run)
    (submits : (find >>= remove layout).run.Submits answering batch) : IsWrite layout batch := by
  obtain ⟨device, submits⟩ := reading.submits_of_bind submits
  cases submits
  exact .removal device

/-- Whatever its queries are answered, a call submits the batch of a write or no batch. -/
theorem Request.isWrite_of_submits {request : Request}
    (submits : (request.action layout).run.Submits answering batch) : IsWrite layout batch := by
  cases request with
  | create device => exact isWrite_of_create submits
  | update device => exact isWrite_of_update submits
  | deleteById id => exact isWrite_of_remove (reading_deviceById layout id) submits
  | deleteByName name => exact isWrite_of_remove (reading_deviceByName layout name) submits
  | deviceById _ | deviceByName _ | existsId _ | existsName _ | allDevices _ _
  | devicesByService _ _ _ | devicesByProfile _ _ _ | devicesByLabels _ _ _ | count
  | countByService _ | countByProfile _ => exact absurd submits (reading_action layout rfl).not_submits

/-! ## What a write leaves -/

namespace IsWrite

theorem suits (write : IsWrite layout batch) :
    ∀ command ∈ batch, layout.typing.Suits command := by
  cases write with
  | insertion admits => exact suits_insertion admits
  | replacement admits => exact suits_replacement admits
  | removal device => exact suits_removal

/-- A write sets no key but the record of a device, to a value that reads as the device. -/
theorem stores (write : IsWrite layout batch) {key : String} {value : Bytes}
    (queued : .set key value ∈ batch) :
    ∃ device, layout.Admits device.id ∧ key = layout.recordKey device.id ∧
      Device.decode value = .ok device := by
  cases write with
  | @insertion device admits =>
      have set : key = layout.recordKey device.id ∧ value = device.encode := by
        simpa [Directory.insertion, joinGroups, recordKeyOf] using queued
      exact ⟨device, admits, set.1, set.2 ▸ device.decode_encode⟩
  | @replacement old new admits =>
      have set : key = layout.recordKey new.id ∧ value = new.encode := by
        simp only [Directory.replacement] at queued
        split at queued <;>
          simpa [joinGroups, leaveGroups, recordKeyOf] using queued
      exact ⟨new, admits, set.1, set.2 ▸ new.decode_encode⟩
  | removal device => simp [Directory.removal, leaveGroups] at queued

end IsWrite

end Directory

namespace Layout.WellTyped

variable {layout : Layout} {space : KeySpace}

theorem fits (typed : layout.WellTyped space) : layout.typing.Fits space := by
  intro key kind keeps
  cases held : space[key]? with
  | none => exact .inl rfl
  | some entry =>
      refine .inr (congrArg some ?_)
      cases keeps with
      | @record id admits =>
          obtain ⟨bytes, device, rfl, _⟩ := typed.records id entry admits held
          rfl
      | ids => exact typed.ids entry held
      | names => exact typed.names entry held
      | group group => exact typed.groups group entry held

/-- A key space that fits the kinds of the layout is well typed when its records read as devices with
the ids that they are stored under. -/
theorem of_fits (fits : layout.typing.Fits space)
    (records : ∀ id bytes, layout.Admits id → space[layout.recordKey id]? = some (.string bytes) →
      ∃ device, Device.decode bytes = .ok device ∧ device.id = id) : layout.WellTyped space := by
  have kind {key : String} {kind : Kind} (keeps : layout.Keeps key kind) (entry : Entry)
      (held : space[key]? = some entry) : entry.kind = kind := by
    rcases fits key kind keeps with absent | present
    · rw [held] at absent
      cases absent
    · rw [held] at present
      exact Option.some.inj present
  refine ⟨kind .ids, kind .names, fun group => kind (.group group), fun id entry admits held => ?_⟩
  cases entry with
  | string bytes =>
      obtain ⟨device, decoded, same⟩ := records id bytes admits held
      exact ⟨bytes, device, rfl, decoded, same⟩
  | sortedSet set => cases kind (.record admits) _ held
  | hash fields => cases kind (.record admits) _ held

theorem empty (layout : Layout) : layout.WellTyped ∅ := by
  constructor <;> simp

/-- A command that suits the kinds of the layout keeps a key space well typed, when a value that it
sets reads as the device whose record it is. -/
theorem apply (typed : layout.WellTyped space) {command : Command}
    (suits : layout.typing.Suits command)
    (stores : ∀ key value, command = .set key value →
      ∃ device, layout.Admits device.id ∧ key = layout.recordKey device.id ∧
        Device.decode value = .ok device) : layout.WellTyped (space.apply command) := by
  refine of_fits (typed.fits.apply suits) fun id bytes admits held => ?_
  rw [KeySpace.getElem?_apply] at held
  by_cases addressed : command.key = layout.recordKey id
  · rw [if_pos addressed] at held
    have keeps : layout.Keeps command.key .string := addressed ▸ .record admits
    cases command with
    | set key value =>
        cases held
        obtain ⟨device, _, same, decoded⟩ := stores key bytes rfl
        exact ⟨device, decoded, recordKey_injective (same.symm.trans addressed)⟩
    | del key => cases held
    | zadd key score member => cases keeps.unique suits
    | zrem key member => cases keeps.unique suits
    | hset key field value => cases keeps.unique suits
    | hdel key field => cases keeps.unique suits
  · rw [if_neg addressed] at held
    obtain ⟨_, device, same, decoded, stored⟩ := typed.records id _ admits held
    cases same
    exact ⟨device, decoded, stored⟩

/-- The batch of a write keeps a key space well typed, whatever it was about. -/
theorem applyAll (typed : layout.WellTyped space) {batch : Batch}
    (write : Directory.IsWrite layout batch) : layout.WellTyped (space.applyAll batch) := by
  have suits := write.suits
  have stores := @write.stores
  clear write
  induction batch generalizing space with
  | nil => exact typed
  | cons command rest ih =>
      have first := typed.apply (suits command (by simp)) fun key value set =>
        stores (by simp [set])
      exact ih first (fun other listed => suits other (by simp [listed])) fun queued =>
        stores (by simp [queued])

end Layout.WellTyped

namespace Directory.Request

variable {layout : Layout} {request : Request} {answering : KeySpace → Prop} {batch : Batch}

/-- Whatever key spaces answered the queries of a call, the batch that it submits is accepted on every
key space that is well typed for the layout. None of its commands meets a value of a wrong kind, not
even when they run one by one, and the key space is well typed afterwards. -/
theorem exec_of_submits (submits : (request.action layout).run.Submits answering batch)
    {memory : Memory} (ready : memory.Ready) (typed : layout.WellTyped memory.space) :
    (memory.exec batch).1 = .ok () ∧
      memory.space.executeAll batch = .ok (memory.exec batch).2.space ∧
      layout.WellTyped (memory.exec batch).2.space := by
  have write := isWrite_of_submits submits
  obtain ⟨pending, admitted⟩ := typed.fits.check write.suits
  rw [ready.exec_eq, admitted]
  exact ⟨rfl, typed.fits.executeAll write.suits, typed.applyAll write⟩

/-- A device is renamed that another call has removed since it was read. -/
theorem exec_of_submits_removed :
    let device := Device.plain "a" "b" "s" "p"
    let read := (∅ : KeySpace).applyAll (insertion .standard device)
    let batch := replacement .standard device { device with name := "c", modified := 7 }
    ((update { device with name := "c" }).action .standard).run.Submits (· = read) batch ∧
      Layout.standard.WellTyped read ∧ Layout.standard.WellTyped Memory.empty.space ∧
      Memory.empty.Ready ∧ (Memory.empty.exec batch).1 = .ok () ∧
      Layout.standard.WellTyped (Memory.empty.exec batch).2.space := by
  intro device read batch
  have admits : Layout.standard.Admits device.id := ⟨by decide, by decide⟩
  have effects := effects_insertion admits
  have record : read.answer (.get (Layout.standard.recordKey device.id)) =
      .ok (some device.encode) := by
    have held : read[Layout.standard.recordKey device.id]? = some (.string device.encode) := by
      rw [KeySpace.getElem?_applyAll, effects.record]
    simp only [KeySpace.answer, KeySpace.string?, held]
  have free : read.answer (.hexists Layout.standard.nameIndex "c") = .ok false := by
    have held : read[Layout.standard.nameIndex]? =
        some (.hash ((∅ : Text.Map String).insert "b" (Layout.standard.recordKey device.id))) := by
      rw [KeySpace.getElem?_applyAll, effects.names]
      simp [Command.effect, device, Device.plain]
    simp only [KeySpace.answer, KeySpace.hash, held, Except.map]
    simp
  have submits : ((update { device with name := "c" }).action .standard).run.Submits (· = read)
      batch := by
    have accepted : Catalog.refusal? .standard { device with name := "c" } = none := by decide
    rw [action, Directory.update, Catalog.validateFor_eq, accepted, Directory.deviceById,
      if_neg (by decide)]
    refine .ask read rfl ?_
    rw [record]
    simp only [Except.mapError, Script.done_bind, ExceptT.bindCont, device.decode_encode]
    refine .ask read rfl ?_
    rw [free]
    exact .readClock 7 (.exec _)
  have typed := Layout.WellTyped.empty .standard
  obtain ⟨accepted, _, after⟩ := exec_of_submits submits Memory.ready_empty typed
  exact ⟨submits, typed.applyAll (.insertion admits), typed, Memory.ready_empty, accepted, after⟩

end Directory.Request

end DeviceCatalog
