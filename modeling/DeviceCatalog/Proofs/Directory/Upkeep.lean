import DeviceCatalog.Proofs.Device.Record
import DeviceCatalog.Proofs.Directory.Mirror
import DeviceCatalog.Proofs.Substrate.Locality

/-!
# The batches of a write, key by key

What the batches that store, replace and remove a device make of each key, whatever the key holds.
The families of keys are apart, so each key meets the commands of one family only.
-/

namespace DeviceCatalog

namespace Directory

open Batch

/-- What a batch about one id makes of each family of keys. Other keys are left alone. -/
structure Effects (layout : Layout) (id : String) (batch : Batch)
    (record ids names : Option Entry → Option Entry)
    (groups : Group → Option Entry → Option Entry) : Prop where
  record : ∀ entry, batch.effectAt (layout.recordKey id) entry = record entry
  ids : ∀ entry, batch.effectAt layout.idIndex entry = ids entry
  names : ∀ entry, batch.effectAt layout.nameIndex entry = names entry
  groups : ∀ group entry, batch.effectAt (layout.groupIndex group) entry = groups group entry
  elsewhere : ∀ key entry, key ≠ layout.recordKey id → ¬ layout.IsIndex key →
    batch.effectAt key entry = entry

variable {layout : Layout} {id : String}

/-! ## Pieces of a batch -/

section Pieces

variable {first second : Batch} {record ids names : Option Entry → Option Entry}
variable {laterRecord laterIds laterNames : Option Entry → Option Entry}
variable {groups laterGroups : Group → Option Entry → Option Entry}

theorem Effects.append (earlier : Effects layout id first record ids names groups)
    (later : Effects layout id second laterRecord laterIds laterNames laterGroups) :
    Effects layout id (first ++ second) (fun entry => laterRecord (record entry))
      (fun entry => laterIds (ids entry)) (fun entry => laterNames (names entry))
      (fun group entry => laterGroups group (groups group entry)) := by
  constructor
  · intro entry
    rw [effectAt_append, earlier.record, later.record]
  · intro entry
    rw [effectAt_append, earlier.ids, later.ids]
  · intro entry
    rw [effectAt_append, earlier.names, later.names]
  · intro group entry
    rw [effectAt_append, earlier.groups, later.groups]
  · intro key entry different foreign
    rw [effectAt_append, earlier.elsewhere key entry different foreign,
      later.elsewhere key entry different foreign]

end Pieces

theorem effects_nil : Effects layout id [] (·) (·) (·) fun _ entry => entry where
  record _ := rfl
  ids _ := rfl
  names _ := rfl
  groups _ _ := rfl
  elsewhere _ _ _ _ := rfl

theorem effectAt_singleton (key : String) (command : Command) (entry : Option Entry) :
    effectAt key [command] entry = if command.key = key then command.effect entry else entry := rfl

/-- A command for a record or an index changes this key alone. -/
theorem effects_singleton (id : String) {command : Command}
    (own : command.key = layout.recordKey id ∨ layout.IsIndex command.key) :
    Effects layout id [command]
      (fun entry => if command.key = layout.recordKey id then command.effect entry else entry)
      (fun entry => if command.key = layout.idIndex then command.effect entry else entry)
      (fun entry => if command.key = layout.nameIndex then command.effect entry else entry)
      fun group entry =>
        if command.key = layout.groupIndex group then command.effect entry else entry where
  record _ := rfl
  ids _ := rfl
  names _ := rfl
  groups _ _ := rfl
  elsewhere key entry different foreign := by
    rw [effectAt_singleton, if_neg]
    rintro rfl
    exact own.elim different foreign

theorem effects_record (admits : layout.Admits id) (command : Command)
    (addressed : command.key = layout.recordKey id) :
    Effects layout id [command] command.effect (·) (·) fun _ entry => entry := by
  simpa [addressed, admits.ne_idIndex, admits.ne_nameIndex, admits.ne_groupIndex] using
    effects_singleton id (.inl addressed)

theorem effects_idIndex (admits : layout.Admits id) (command : Command)
    (addressed : command.key = layout.idIndex) :
    Effects layout id [command] (·) command.effect (·) fun _ entry => entry := by
  have own : layout.IsIndex command.key := addressed ▸ Layout.isIndex_idIndex
  simpa [addressed, admits.ne_idIndex.symm, Layout.nameIndex_ne_idIndex.symm,
    (Layout.groupIndex_ne_idIndex _).symm] using effects_singleton id (.inr own)

theorem effects_nameIndex (admits : layout.Admits id) (command : Command)
    (addressed : command.key = layout.nameIndex) :
    Effects layout id [command] (·) (·) command.effect fun _ entry => entry := by
  have own : layout.IsIndex command.key := addressed ▸ Layout.isIndex_nameIndex
  simpa [addressed, admits.ne_nameIndex.symm, Layout.nameIndex_ne_idIndex,
    (Layout.groupIndex_ne_nameIndex _).symm] using effects_singleton id (.inr own)

/-- Commands to different groups, each of which is known by whether its devices are of a kind. -/
theorem effects_groups (admits : layout.Admits id) {groups : List String} {kept : Group → Prop}
    [DecidablePred kept] (distinct : groups.Nodup)
    (listed : ∀ key, key ∈ groups ↔ ∃ group, kept group ∧ key = layout.groupIndex group)
    (command : String → Command) (addressed : ∀ group, (command group).key = group) :
    Effects layout id (groups.map command) (·) (·) (·) fun group entry =>
      if kept group then (command (layout.groupIndex group)).effect entry else entry := by
  have apart : ∀ key entry, (∀ group, key ≠ layout.groupIndex group) →
      effectAt key (groups.map command) entry = entry := by
    intro key entry different
    rw [effectAt_map distinct command addressed, if_neg]
    intro member
    obtain ⟨group, _, same⟩ := (listed key).1 member
    exact different group same
  constructor
  · exact fun entry => apart _ entry admits.ne_groupIndex
  · exact fun entry => apart _ entry fun group => (Layout.groupIndex_ne_idIndex group).symm
  · exact fun entry => apart _ entry fun group => (Layout.groupIndex_ne_nameIndex group).symm
  · intro group entry
    rw [effectAt_map distinct command addressed]
    refine if_congr ?_ rfl rfl
    rw [listed]
    constructor
    · rintro ⟨other, keeps, same⟩
      exact Layout.groupIndex_injective same ▸ keeps
    · exact fun keeps => ⟨group, keeps, rfl⟩
  · intro key entry different foreign
    refine apart key entry ?_
    rintro group rfl
    exact foreign (Layout.isIndex_groupIndex group)

/-! ## The three batches -/

variable {device old new : Device}

section Commands

variable {property : Command → Prop} {groups : List String} {command : String → Command}

theorem forall_groupKeys (listed : ∀ key ∈ groups, key ∈ (device.groupKeys layout).toList)
    (holds : ∀ group, property (command (layout.groupIndex group))) :
    ∀ queued ∈ groups.map command, property queued := by
  intro queued member
  obtain ⟨key, kept, rfl⟩ := List.mem_map.1 member
  obtain ⟨group, _, rfl⟩ := Device.mem_groupKeys.1 (listed key kept)
  exact holds group

theorem forall_insertion (record : property (.set (layout.recordKey device.id) device.encode))
    (ids : property (.zadd layout.idIndex .zero (layout.recordKey device.id)))
    (names : property (.hset layout.nameIndex device.name (layout.recordKey device.id)))
    (groups : ∀ group, property
      (.zadd (layout.groupIndex group) (scoreOf device) (layout.recordKey device.id))) :
    ∀ queued ∈ insertion layout device, property queued := by
  refine List.forall_mem_append.2 ⟨?_, forall_groupKeys (fun _ => id) groups⟩
  simpa using ⟨record, ids, names⟩

theorem forall_removal (record : property (.del (layout.recordKey device.id)))
    (ids : property (.zrem layout.idIndex (layout.recordKey device.id)))
    (names : property (.hdel layout.nameIndex device.name))
    (groups : ∀ group, property (.zrem (layout.groupIndex group) (layout.recordKey device.id))) :
    ∀ queued ∈ removal layout device, property queued := by
  refine List.forall_mem_append.2 ⟨?_, forall_groupKeys (fun _ => id) groups⟩
  simpa using ⟨record, ids, names⟩

theorem forall_replacement (record : property (.set (layout.recordKey new.id) new.encode))
    (leaves : property (.hdel layout.nameIndex old.name))
    (joins : property (.hset layout.nameIndex new.name (layout.recordKey new.id)))
    (parted : ∀ group, property (.zrem (layout.groupIndex group) (layout.recordKey new.id)))
    (joined : ∀ group, property
      (.zadd (layout.groupIndex group) (scoreOf new) (layout.recordKey new.id))) :
    ∀ queued ∈ replacement layout old new, property queued := by
  refine List.forall_mem_append.2 ⟨List.forall_mem_append.2 ⟨List.forall_mem_cons.2 ⟨record, ?_⟩,
    @forall_groupKeys layout old _ _ _ (fun _ => List.mem_of_mem_filter) parted⟩,
    forall_groupKeys (fun _ => id) joined⟩
  split
  next => simp
  next => simpa using ⟨leaves, joins⟩

end Commands

/-- A batch of one command for the record, one for each of the two indexes and one for each group of the
device. -/
theorem effects_of_groupKeys (admits : layout.Admits device.id) {record ids names : Command}
    {group : String → Command} (onRecord : record.key = layout.recordKey device.id)
    (onIds : ids.key = layout.idIndex) (onNames : names.key = layout.nameIndex)
    (onGroup : ∀ key, (group key).key = key) :
    Effects layout device.id
      ([record, ids, names] ++ (device.groupKeys layout).toList.map group)
      record.effect ids.effect names.effect fun kept entry =>
        if device.MemberOf kept then (group (layout.groupIndex kept)).effect entry else entry := by
  have grouped := effects_groups admits (device.nodup_groupKeys layout)
    (fun _ => Device.mem_groupKeys) group onGroup
  have recorded := effects_record admits record onRecord
  have listed := effects_idIndex admits ids onIds
  have named := effects_nameIndex admits names onNames
  exact ((recorded.append listed).append named).append grouped

theorem effects_insertion (admits : layout.Admits device.id) :
    let key := layout.recordKey device.id
    Effects layout device.id (insertion layout device)
      (fun _ => some (.string device.encode))
      (Command.zadd layout.idIndex .zero key).effect
      (Command.hset layout.nameIndex device.name key).effect
      (fun group entry =>
        if device.MemberOf group then
          (Command.zadd (layout.groupIndex group) (scoreOf device) key).effect entry
        else entry) :=
  effects_of_groupKeys admits rfl rfl rfl fun _ => rfl

theorem effects_removal (admits : layout.Admits device.id) :
    let key := layout.recordKey device.id
    Effects layout device.id (removal layout device)
      (fun _ => none)
      (Command.zrem layout.idIndex key).effect
      (Command.hdel layout.nameIndex device.name).effect
      (fun group entry =>
        if device.MemberOf group then (Command.zrem (layout.groupIndex group) key).effect entry
        else entry) :=
  effects_of_groupKeys admits rfl rfl rfl fun _ => rfl

theorem mem_partedGroups {key : String} :
    key ∈ (old.groupKeys layout).toList.filter (fun group => !(new.groupKeys layout).contains group) ↔
      ∃ group, (old.MemberOf group ∧ ¬ new.MemberOf group) ∧ key = layout.groupIndex group := by
  simp only [List.mem_filter, Device.mem_groupKeys, Bool.not_eq_true', Bool.eq_false_iff, ne_eq,
    Std.ExtTreeSet.contains_iff_mem, ← Std.ExtTreeSet.mem_toList]
  constructor
  · rintro ⟨⟨group, member, rfl⟩, parted⟩
    exact ⟨group, ⟨member, fun other => parted ⟨group, other, rfl⟩⟩, rfl⟩
  · rintro ⟨group, ⟨member, parted⟩, rfl⟩
    refine ⟨⟨group, member, rfl⟩, ?_⟩
    rintro ⟨other, joined, same⟩
    exact parted (Layout.groupIndex_injective same ▸ joined)

theorem effects_replacement (admits : layout.Admits new.id) :
    let key := layout.recordKey new.id
    Effects layout new.id (replacement layout old new)
      (fun _ => some (.string new.encode))
      (·)
      (fun entry =>
        if old.name = new.name then entry
        else (Command.hset layout.nameIndex new.name key).effect
          ((Command.hdel layout.nameIndex old.name).effect entry))
      (fun group entry =>
        if new.MemberOf group then
          (Command.zadd (layout.groupIndex group) (scoreOf new) key).effect entry
        else if old.MemberOf group then
          (Command.zrem (layout.groupIndex group) key).effect entry
        else entry) := by
  intro key
  have record := effects_record admits (.set key new.encode) rfl
  have renamed : Effects layout new.id
      (if old.name = new.name then []
        else [.hdel layout.nameIndex old.name, .hset layout.nameIndex new.name key])
      (·) (·)
      (fun entry =>
        if old.name = new.name then entry
        else (Command.hset layout.nameIndex new.name key).effect
          ((Command.hdel layout.nameIndex old.name).effect entry))
      fun _ entry => entry := by
    by_cases same : old.name = new.name
    · simpa only [if_pos same] using effects_nil
    · simp only [if_neg same]
      exact (effects_nameIndex admits (.hdel layout.nameIndex old.name) rfl).append
        (effects_nameIndex admits (.hset layout.nameIndex new.name key) rfl)
  have parted := effects_groups admits ((old.nodup_groupKeys layout).filter _)
    (fun _ => @mem_partedGroups layout old new _) (fun group => .zrem group key) fun _ => rfl
  have joined := effects_groups admits (new.nodup_groupKeys layout)
    (fun _ => Device.mem_groupKeys) (fun group => .zadd group (scoreOf new) key) fun _ => rfl
  have all := ((record.append renamed).append parted).append joined
  refine { all with groups := fun group entry => ?_ }
  refine (all.groups group entry).trans ?_
  by_cases member : new.MemberOf group <;> simp [member]

end Directory

end DeviceCatalog
