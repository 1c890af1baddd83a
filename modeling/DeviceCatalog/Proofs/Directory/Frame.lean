import DeviceCatalog.Proofs.Directory.Coherence
import DeviceCatalog.Proofs.Directory.Confinement
import DeviceCatalog.Proofs.Directory.Upkeep
import DeviceCatalog.Proofs.Substrate.Bystanders

/-!
# What a write leaves alone

A write that succeeds is about one device: the one that it stores, or the one whose record it has read
and removes. Whatever the key space holds, in order or not, the write touches the record of this device,
its entries in the index of ids and in the name table, and its places in the groups of the record that
was read and of the one that is stored. Everything else is as it was, the entries of other devices in
the very same indexes included.
-/

namespace DeviceCatalog

namespace KeySpace

/-- The device whose record stands under a key, if the key holds a record that can be read. -/
def device? (space : KeySpace) (key : String) : Option Device :=
  (space.bytes? key).bind fun bytes => (Device.decode bytes).toOption

theorem device?_eq_some_iff {space : KeySpace} {key : String} {device : Device} :
    space.device? key = some device ↔ space.Records key device := by
  rw [device?, Option.bind_eq_some_iff, Records]
  refine exists_congr fun bytes => and_congr_right fun _ => ?_
  cases Device.decode bytes <;> simp [Except.toOption]

theorem bytes?_of_answer_get {space : KeySpace} {key : String} {stored : Option Bytes}
    (answered : space.answer (.get key) = .ok stored) : space.bytes? key = stored := by
  rw [answer, string?] at answered
  rw [bytes?]
  cases held : space[key]? with
  | none =>
      rw [held] at answered
      exact Except.ok.inj answered
  | some entry =>
      rw [held] at answered
      cases entry with
      | string bytes => exact Except.ok.inj answered
      | sortedSet set => cases answered
      | hash fields => cases answered

end KeySpace

namespace Directory

variable {layout : Layout} {space : KeySpace}

/-! ## What a write is about -/

namespace Request

/-- The device whose record a write reads. -/
def read? (layout : Layout) (space : KeySpace) : Request → Option Device
  | update device => space.device? (layout.recordKey device.id)
  | deleteById id => space.device? (layout.recordKey id)
  | deleteByName name =>
    match space.answer (.hget layout.nameIndex name) with
    | .ok (some key) => space.device? key
    | _ => none
  | _ => none

/-- The device that a write stores, which is what it answers. -/
def stored? : (request : Request) → request.Answer → Option Device
  | create _, device => some device
  | update _, device => some device
  | _, _ => none

end Request

/-- What a write that succeeds leaves, by the device that was read and the device that is stored. -/
inductive Writes (layout : Layout) (space : KeySpace) :
    Option Device → Option Device → KeySpace → Prop
  | insertion {device : Device} (admits : layout.Admits device.id) :
      Writes layout space none (some device) (space.applyAll (insertion layout device))
  | replacement {old new : Device} (admits : layout.Admits new.id) :
      Writes layout space (some old) (some new) (space.applyAll (replacement layout old new))
  | removal (device : Device) :
      Writes layout space (some device) none (space.applyAll (removal layout device))

namespace Action

variable {result next source : Type} [Clock source] {clock later : source} {after : KeySpace}

/-- An action that goes on after reading goes on from the key space that was read. -/
theorem Reading.exists_of_bind {action : Action result} {continuation : result → Action next}
    (reading : Reading action.run) {value : next}
    (ended : (action >>= continuation).run.evaluate space clock = (.ok value, after, later)) :
    ∃ first, action.run.evaluate space clock = (.ok first, space, clock) ∧
      (continuation first).run.evaluate space clock = (.ok value, after, later) := by
  have kept := reading.evaluate space clock
  cases evaluated : action.run.evaluate space clock with
  | mk outcome rest =>
      rw [evaluated] at kept
      subst kept
      cases outcome with
      | error failure =>
          rw [evaluate_bind_of_error evaluated] at ended
          cases ended
      | ok first => exact ⟨first, rfl, evaluate_bind_of_ok evaluated ▸ ended⟩

/-- An action that hands over a batch at its end has applied it when it ends well. -/
theorem of_evaluate_commit {description : String} {batch : Batch} {given value : result}
    (ended : (Action.commit description batch >>= fun _ => pure given).run.evaluate space clock =
      (.ok value, after, later)) :
    value = given ∧ after = space.applyAll batch := by
  cases admitted : Admission.check space batch with
  | ok pending =>
      rw [evaluate_bind_of_ok (evaluate_commit admitted)] at ended
      cases ended
      exact ⟨rfl, rfl⟩
  | error refusal =>
      rw [evaluate_bind_of_error (evaluate_commit_of_error admitted)] at ended
      cases ended

/-- The end of a write that stores a device. -/
theorem of_evaluate_store {description : String} {stamped : Int64 → Device}
    {queued : Device → Batch} {value : Device}
    (ended : (do
      let now ← Action.readClock
      Action.commit description (queued (stamped now))
      return stamped now : Action Device).run.evaluate space clock = (.ok value, after, later)) :
    ∃ now, value = stamped now ∧ after = space.applyAll (queued (stamped now)) := by
  rcases told : Clock.read clock with ⟨now, ticked⟩
  rw [evaluate_bind_of_ok (evaluate_readClock told)] at ended
  exact ⟨now, of_evaluate_commit ended⟩

end Action

open DeviceCatalog.Directory.Action

variable {source : Type} [Clock source] {clock later : source} {after : KeySpace} {device : Device}

/-! ## What is read -/

theorem admits_of_validateFor (valid : device.validateFor layout = .ok ()) :
    layout.Admits device.id := by
  rw [Catalog.validateFor_eq] at valid
  cases accepted : Catalog.refusal? layout device with
  | some reason =>
      rw [accepted] at valid
      cases valid
  | none => exact (Catalog.admits_of_refusal? accepted).1

theorem device?_of_evaluate_deviceAt? {key : String} {found : Option Device}
    (ended : (deviceAt? key).run.evaluate space clock = (.ok found, after, later)) :
    space.device? key = found := by
  obtain ⟨stored, asked, ended⟩ := (Reading.query _ _).exists_of_bind ended
  rw [KeySpace.device?, KeySpace.bytes?_of_answer_get (answer_of_evaluate_ask (congrArg Prod.fst asked))]
  cases stored with
  | none =>
      cases ended
      rfl
  | some bytes =>
      rw [Option.bind_some]
      cases decoded : Device.decode bytes with
      | error failure =>
          simp only [decoded] at ended
          cases ended
      | ok device =>
          simp only [decoded] at ended
          cases ended
          rfl

theorem device?_of_evaluate_deviceById {id : String}
    (ended : (deviceById layout id).run.evaluate space clock = (.ok device, after, later)) :
    space.device? (layout.recordKey id) = some device := by
  rw [deviceById] at ended
  split at ended
  next => cases ended
  next =>
    obtain ⟨found, looked, ended⟩ := (reading_deviceAt? _).exists_of_bind ended
    rw [device?_of_evaluate_deviceAt? looked]
    cases found with
    | none => cases ended
    | some other =>
        cases ended
        rfl

theorem read?_of_evaluate_deviceByName {name : String}
    (ended : (deviceByName layout name).run.evaluate space clock = (.ok device, after, later)) :
    (Request.deleteByName name).read? layout space = some device := by
  obtain ⟨stored, asked, ended⟩ := (Reading.query _ _).exists_of_bind ended
  rw [Request.read?, answer_of_evaluate_ask (congrArg Prod.fst asked)]
  cases stored with
  | none => cases ended
  | some key =>
      obtain ⟨found, looked, ended⟩ := (reading_deviceAt? key).exists_of_bind ended
      cases found with
      | none => cases ended
      | some other =>
          cases ended
          exact device?_of_evaluate_deviceAt? looked

/-! ## What is left -/

theorem writes_of_create {stored : Device}
    (ended : (create layout device).run.evaluate space clock = (.ok stored, after, later)) :
    Writes layout space none (some stored) after := by
  obtain ⟨_, valid, ended⟩ := (Reading.ofExcept _).exists_of_bind ended
  have admits := admits_of_validateFor (congrArg Prod.fst valid)
  obtain ⟨taken, _, ended⟩ := (reading_existsId layout device.id).exists_of_bind ended
  cases taken with
  | true => cases ended
  | false =>
      obtain ⟨borne, _, ended⟩ := (reading_existsName layout device.name).exists_of_bind ended
      cases borne with
      | true => cases ended
      | false =>
          obtain ⟨now, rfl, rfl⟩ := of_evaluate_store ended
          exact .insertion admits

theorem writes_of_update {stored : Device}
    (ended : (update layout device).run.evaluate space clock = (.ok stored, after, later)) :
    Writes layout space (space.device? (layout.recordKey device.id)) (some stored) after := by
  obtain ⟨_, valid, ended⟩ := (Reading.ofExcept _).exists_of_bind ended
  have admits := admits_of_validateFor (congrArg Prod.fst valid)
  obtain ⟨old, found, ended⟩ := (reading_deviceById layout device.id).exists_of_bind ended
  rw [device?_of_evaluate_deviceById found]
  by_cases renamed : old.name ≠ device.name
  · rw [if_pos renamed] at ended
    obtain ⟨borne, _, ended⟩ := (reading_existsName layout device.name).exists_of_bind ended
    cases borne with
    | true => cases ended
    | false =>
        obtain ⟨now, rfl, rfl⟩ := of_evaluate_store ended
        exact .replacement admits
  · rw [if_neg renamed] at ended
    obtain ⟨now, rfl, rfl⟩ := of_evaluate_store ended
    exact .replacement admits

theorem of_evaluate_remove
    (ended : (Directory.remove layout device).run.evaluate space clock = (.ok (), after, later)) :
    after = space.applyAll (removal layout device) := by
  rw [← bind_pure_unit (x := Directory.remove layout device)] at ended
  exact (of_evaluate_commit ended).2

theorem writes_of_remove
    (ended : (Directory.remove layout device).run.evaluate space clock = (.ok (), after, later)) :
    Writes layout space (some device) none after :=
  of_evaluate_remove ended ▸ .removal device

/-- A write that succeeds leaves what its batch makes of the key space. -/
theorem Request.writes_of_evaluate {request : Request} (write : request.isQuery = false)
    {value : request.Answer}
    (ended : (request.action layout).run.evaluate space clock = (.ok value, after, later)) :
    Writes layout space (request.read? layout space) (request.stored? value) after := by
  cases request with
  | create device => exact writes_of_create ended
  | update device => exact writes_of_update ended
  | deleteById id =>
      obtain ⟨device, found, ended⟩ := (reading_deviceById layout id).exists_of_bind ended
      rw [read?, device?_of_evaluate_deviceById found]
      exact writes_of_remove ended
  | deleteByName name =>
      obtain ⟨device, found, ended⟩ := (reading_deviceByName layout name).exists_of_bind ended
      rw [read?_of_evaluate_deviceByName found]
      exact writes_of_remove ended
  | deviceById _ | deviceByName _ | existsId _ | existsName _ | allDevices _ _
  | devicesByService _ _ _ | devicesByProfile _ _ _ | devicesByLabels _ _ _ | count
  | countByService _ | countByProfile _ => cases write

/-! ## What is left alone -/

/-- A change is about one device, whose record has the given key, and about what is said of it by the
records of some devices. All other keys are as they were. In the index of ids and in the groups of these
records every other member is as it was, and so is every name in the name table that is not one of
theirs. -/
structure Keeps (layout : Layout) (key : String) (records : List Device) (before after : KeySpace) :
    Prop where
  elsewhere : ∀ other : String, other ≠ key → other ≠ layout.idIndex → other ≠ layout.nameIndex →
    (∀ device ∈ records, other ∉ device.groupKeys layout) → after[other]? = before[other]?
  members : ∀ index member : String,
    (index = layout.idIndex ∨ ∃ device ∈ records, index ∈ device.groupKeys layout) →
    member ≠ key → after.answer (.zscore index member) = before.answer (.zscore index member)
  names : ∀ name : String, (∀ device ∈ records, device.name ≠ name) →
    after.answer (.hget layout.nameIndex name) = before.answer (.hget layout.nameIndex name)

/-- A batch leaves alone whatever its effects on the indexes leave alone. -/
theorem Effects.keeps {id : String} {batch : Batch} {record ids names : Option Entry → Option Entry}
    {groups : Group → Option Entry → Option Entry} {records : List Device}
    (effects : Effects layout id batch record ids names groups)
    (ranked : ∀ member, layout.recordKey id ≠ member → Query.Ignores (.zscore · member) ids)
    (named : ∀ name, (∀ device ∈ records, device.name ≠ name) → Query.Ignores (.hget · name) names)
    (grouped : ∀ group member, layout.recordKey id ≠ member →
      Query.Ignores (.zscore · member) (groups group))
    (foreign : ∀ group entry, (∀ device ∈ records, ¬ device.MemberOf group) →
      groups group entry = entry) (space : KeySpace) :
    Keeps layout (layout.recordKey id) records space (space.applyAll batch) where
  elsewhere other apart notIds notNames notGroups := by
    rw [KeySpace.getElem?_applyAll]
    by_cases index : layout.IsIndex other
    · obtain rfl | rfl | ⟨group, rfl⟩ := index
      · exact absurd rfl notIds
      · exact absurd rfl notNames
      · rw [effects.groups]
        refine foreign group _ fun device listed member => notGroups device listed ?_
        rw [← Std.ExtTreeSet.mem_toList, Device.mem_groupKeys]
        exact ⟨group, member, rfl⟩
    · exact effects.elsewhere other _ apart index
  members index member listed apart := by
    obtain rfl | ⟨device, _, joined⟩ := listed
    · refine ranked member apart.symm space _ layout.idIndex ?_
      rw [KeySpace.getElem?_applyAll, effects.ids]
    · rw [← Std.ExtTreeSet.mem_toList, Device.mem_groupKeys] at joined
      obtain ⟨group, _, rfl⟩ := joined
      refine grouped group member apart.symm space _ (layout.groupIndex group) ?_
      rw [KeySpace.getElem?_applyAll, effects.groups]
  names name apart := by
    refine named name apart space _ layout.nameIndex ?_
    rw [KeySpace.getElem?_applyAll, effects.names]

/-- A batch that changes one member of the index of ids, one name, and the same member of the groups of a
device leaves the rest alone. -/
theorem Effects.keeps_of_changes {batch : Batch} {record : Option Entry → Option Entry}
    {ids names : Command} {rank score : Option Score} {named : Option String}
    {onIds onGroups : SortedSet → SortedSet} {onNames : Text.Map String → Text.Map String}
    (group : String → Command)
    (effects : Effects layout device.id batch record ids.effect names.effect fun kept entry =>
      if device.MemberOf kept then (group (layout.groupIndex kept)).effect entry else entry)
    (changesIds : Collection.ranked.Changes ids (layout.recordKey device.id) rank onIds)
    (changesNames : Collection.tabled.Changes names device.name named onNames)
    (changesGroups : ∀ index,
      Collection.ranked.Changes (group index) (layout.recordKey device.id) score onGroups)
    (space : KeySpace) :
    Keeps layout (layout.recordKey device.id) [device] space (space.applyAll batch) := by
  refine effects.keeps ?ranked ?named ?grouped ?foreign space
  case ranked => exact fun member apart => Query.ignores_zscore apart changesIds
  case named => exact fun name apart => Query.ignores_hget (apart device (by simp)) changesNames
  case grouped =>
    intro kept member apart
    exact (Query.ignores_zscore apart (changesGroups _)).ite (Query.ignores_zscore_self member)
  case foreign => exact fun kept entry others => if_neg (others device (by simp))

theorem keeps_insertion (admits : layout.Admits device.id) (space : KeySpace) :
    Keeps layout (layout.recordKey device.id) [device] space
      (space.applyAll (insertion layout device)) :=
  Effects.keeps_of_changes (.zadd · (scoreOf device) (layout.recordKey device.id))
    (effects_insertion admits) (Collection.changes_zadd _ _ _) (Collection.changes_hset _ _ _)
    (fun index => Collection.changes_zadd index _ _) space

theorem keeps_removal (admits : layout.Admits device.id) (space : KeySpace) :
    Keeps layout (layout.recordKey device.id) [device] space
      (space.applyAll (removal layout device)) :=
  Effects.keeps_of_changes (.zrem · (layout.recordKey device.id)) (effects_removal admits)
    (Collection.changes_zrem _ _) (Collection.changes_hdel _ _)
    (fun index => Collection.changes_zrem index _) space

theorem keeps_replacement {old new : Device} (admits : layout.Admits new.id) (space : KeySpace) :
    Keeps layout (layout.recordKey new.id) [old, new] space
      (space.applyAll (replacement layout old new)) := by
  refine (effects_replacement admits).keeps ?ranked ?named ?grouped ?foreign space
  case ranked => exact fun member apart => Query.ignores_zscore_self member
  case named =>
    intro name apart
    have leaves := Query.ignores_hget (apart old (by simp))
      (Collection.changes_hdel layout.nameIndex old.name)
    have joins := Query.ignores_hget (apart new (by simp))
      (Collection.changes_hset layout.nameIndex new.name (layout.recordKey new.id))
    exact (Query.ignores_hget_self name).ite (leaves.comp joins)
  case grouped =>
    intro group member apart
    have joins := Query.ignores_zscore apart
      (Collection.changes_zadd (layout.groupIndex group) (scoreOf new) _)
    have leaves := Query.ignores_zscore apart (Collection.changes_zrem (layout.groupIndex group) _)
    exact joins.ite (leaves.ite (Query.ignores_zscore_self member))
  case foreign =>
    intro group entry others
    rw [if_neg (others new (by simp)), if_neg (others old (by simp))]

/-- A write is about the device that is stored or, when none is, about the one that was read. -/
theorem Writes.keeps {old new : Option Device} (writes : Writes layout space old new after) :
    ∃ device, new.or old = some device ∧ ((new = none → layout.Admits device.id) →
      after[layout.recordKey device.id]? = new.map (fun stored => .string stored.encode) ∧
        Keeps layout (layout.recordKey device.id) (old.toList ++ new.toList) space after) := by
  cases writes with
  | insertion admits =>
      refine ⟨_, rfl, fun _ => ⟨?_, keeps_insertion admits space⟩⟩
      rw [KeySpace.getElem?_applyAll, (effects_insertion admits).record]
      rfl
  | replacement admits =>
      refine ⟨_, rfl, fun _ => ⟨?_, keeps_replacement admits space⟩⟩
      rw [KeySpace.getElem?_applyAll, (effects_replacement admits).record]
      rfl
  | removal device =>
      refine ⟨device, rfl, fun admitted => ⟨?_, keeps_removal (admitted rfl) space⟩⟩
      rw [KeySpace.getElem?_applyAll, (effects_removal (admitted rfl)).record]
      rfl

namespace Request

/-- A write that succeeds, over any link and on any key space, changes the record of one device, and
otherwise nothing but what is about this device: the one that it stores, or the one whose record it has
read in order to remove it. That record may be anyone's, so for a removal it is taken for granted that
the layout admits the id in it. -/
theorem run_keeps (layout : Layout) {request : Request} (write : request.isQuery = false)
    {link : Link} {clock : source} {value : request.Answer}
    (succeeded : ((request.action layout).run.run link clock).1 = .ok value) :
    let before := link.memory.space
    let after := ((request.action layout).run.run link clock).2.1.memory.space
    let old := request.read? layout before
    let new := request.stored? value
    ∃ device, new.or old = some device ∧ ((new = none → layout.Admits device.id) →
      after[layout.recordKey device.id]? = new.map (fun stored => .string stored.encode) ∧
        Keeps layout (layout.recordKey device.id) (old.toList ++ new.toList) before after) := by
  intro before after old new
  have ended := (disciplined_action layout request).evaluate_of_run succeeded
  exact (writes_of_evaluate write ended).keeps

/-- A device takes another name and another label. -/
theorem run_keeps_renamed :
    let old := { Device.plain "a" "b" "s" "p" with labels := ["x"] }
    let wanted := { old with name := "c", labels := ["y"] }
    let stored := { wanted with modified := 7 }
    let space := (∅ : KeySpace).applyAll (insertion .standard old)
    let link : Link := { Link.empty with memory := { Memory.empty with space := space } }
    let ran := ((update wanted).action .standard).run.run link (⟨7, 1⟩ : ManualClock)
    (update wanted).isQuery = false ∧ ran.1 = .ok stored ∧
      (update wanted).read? .standard space = some old ∧
      Keeps .standard (Layout.standard.recordKey "a") [old, stored] space ran.2.1.memory.space := by
  intro old wanted stored space link ran
  have admits : Layout.standard.Admits old.id := ⟨by decide, by decide⟩
  have mirrors : Mirrors .standard space ((∅ : Catalog).insert old.id old) :=
    (Mirrors.empty .standard).insertion admits (by decide) (by simp) (by simp [Catalog.Holds])
  -- From here on the key space is known through the catalog that it mirrors.
  clear_value space
  have read : (update wanted).read? .standard space = some old :=
    KeySpace.device?_eq_some_iff.2 (mirrors.records_recordKey_iff.2 Std.ExtTreeMap.getElem?_insert_self)
  have quiet : link.Quiet := ⟨rfl, rfl, rfl⟩
  have evaluated := (Script.run_of_quiet ((update wanted).action .standard).run quiet
    (⟨7, 1⟩ : ManualClock)).2
  have realized := (mirrors.realizes_update wanted (⟨7, 1⟩ : ManualClock)).outcome
  have meant : (Catalog.update ((∅ : Catalog).insert old.id old) .standard wanted
      (⟨7, 1⟩ : ManualClock)).1 = .ok stored := by
    dsimp only [stored, wanted, old]
    rfl
  have succeeded : ran.1 = .ok stored := ((congrArg Prod.fst evaluated).trans realized).trans meant
  obtain ⟨device, written, keeps⟩ := run_keeps .standard rfl succeeded
  cases written
  have kept := (keeps fun absent => absurd absent (Option.some_ne_none stored)).2
  rw [show (update wanted).read? .standard link.memory.space = some old from read] at kept
  exact ⟨rfl, succeeded, read, kept⟩

end Request

end Directory

end DeviceCatalog
