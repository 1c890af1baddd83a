import DeviceCatalog.Proofs.Directory.Typing
import DeviceCatalog.Proofs.Substrate.Conformance

/-!
# Coherence of the key space

The records, the index of ids and the groups repeat one another, and a key space in which they agree
is coherent. The image of a catalog is. A batch that replaces or removes a device keeps to what its
writer believes of the device; this module says exactly when the key space is still coherent after
such a batch, whether the belief is right or not.
-/

namespace DeviceCatalog

/-! ## Records, ids and groups -/

namespace Entry

/-- The value is a sorted set with this member. -/
def Lists : Option Entry → String → Prop
  | some (sortedSet set), member => (set.score? member).isSome
  | _, _ => False

variable {entry : Option Entry}

theorem Ranks.lists_iff {pairs : String → Score → Prop} (ranks : Ranks entry pairs)
    {member : String} : Lists entry member ↔ ∃ score, pairs member score := by
  cases entry with
  | none => exact ⟨False.elim, fun ⟨score, pair⟩ => ranks member score pair⟩
  | some held =>
      cases held with
      | sortedSet set => simp only [Lists, Option.isSome_iff_exists, ranks.2]
      | string value => exact ranks.elim
      | hash fields => exact ranks.elim

theorem lists_zadd (suited : entry.map kind = none ∨ entry.map kind = some .sortedSet)
    (key member : String) (score : Score) {other : String} :
    Lists ((Command.zadd key score member).effect entry) other ↔
      member = other ∨ Lists entry other := by
  cases entry with
  | none =>
      simp only [Command.effect, Lists, SortedSet.score?_insert, SortedSet.score?_empty]
      split <;> simp [*]
  | some held =>
      cases held with
      | sortedSet set =>
          simp only [Command.effect, Lists, SortedSet.score?_insert]
          split <;> simp [*]
      | string value => simp [kind] at suited
      | hash fields => simp [kind] at suited

theorem lists_zrem (key member : String) {other : String} :
    Lists ((Command.zrem key member).effect entry) other ↔ member ≠ other ∧ Lists entry other := by
  cases entry with
  | none => simp [Command.effect, Lists]
  | some held =>
      cases held with
      | sortedSet set =>
          have remaining : ((set.erase member).2.score? other).isSome = true ↔
              member ≠ other ∧ (set.score? other).isSome = true := by
            rw [SortedSet.score?_erase]
            split <;> simp [*]
          simp only [Command.effect]
          split
          next vacant =>
            rw [SortedSet.score?_of_isEmpty vacant] at remaining
            simpa [Lists] using remaining
          next => exact remaining
      | string value => simp [Command.effect, Lists]
      | hash fields => simp [Command.effect, Lists]

end Entry

namespace KeySpace

/-- The key holds a record, whether it can be read or not. -/
def HasRecord (space : KeySpace) (key : String) : Prop := (space.bytes? key).isSome

/-- The key holds the record of a device. -/
def Records (space : KeySpace) (key : String) (device : Device) : Prop :=
  ∃ bytes, space.bytes? key = some bytes ∧ Device.decode bytes = .ok device

/-- The records, the index of ids and the groups agree. -/
structure Coherent (space : KeySpace) (layout : Layout) : Prop where
  /-- A record is there exactly when its key is in the index of ids. -/
  indexed : ∀ key, space.HasRecord key ↔ Entry.Lists space[layout.idIndex]? key
  /-- A key is in exactly the groups of the device whose record it holds. -/
  grouped : ∀ group key, Entry.Lists space[layout.groupIndex group]? key ↔
    ∃ device, space.Records key device ∧ device.MemberOf group

variable {space : KeySpace} {layout : Layout} {key : String} {device : Device}

theorem bytes?_eq_some_iff {value : Bytes} :
    space.bytes? key = some value ↔ space[key]? = some (.string value) := by
  rw [bytes?]
  split
  next bytes held => simp [held]
  next other =>
    constructor
    · exact nofun
    · exact fun held => absurd held (other value)

theorem Records.hasRecord (records : space.Records key device) : space.HasRecord key := by
  obtain ⟨bytes, held, _⟩ := records
  exact Option.isSome_iff_exists.2 ⟨bytes, held⟩

/-- No record stands under the key of an index. -/
theorem bytes?_of_isIndex (fits : layout.typing.Fits space) (index : layout.IsIndex key) :
    space.bytes? key = none := by
  have foreign {kind : Kind} (keeps : layout.Keeps key kind) (different : kind ≠ .string) :
      space.bytes? key = none := by
    apply Option.eq_none_iff_forall_ne_some.2
    intro bytes record
    rw [bytes?_eq_some_iff] at record
    rcases fits key kind keeps with absent | present
    · simp [record] at absent
    · exact different (by simpa [record, Entry.kind] using present.symm)
  rcases index with rfl | rfl | ⟨group, rfl⟩
  · exact foreign .ids nofun
  · exact foreign .names nofun
  · exact foreign (.group group) nofun

end KeySpace

namespace Mirrors

variable {layout : Layout} {space : KeySpace} {catalog : Catalog} {key id : String}
variable {device : Device}

/-- The image of a catalog holds the records of its devices and no other record. -/
theorem records_iff (mirrors : Mirrors layout space catalog) :
    space.Records key device ↔ catalog.Holds device ∧ key = layout.recordKey device.id := by
  constructor
  · rintro ⟨bytes, record, decoded⟩
    rw [KeySpace.bytes?_eq_some_iff] at record
    rcases mirrors.only key _ record with ⟨stored, held, rfl⟩ | index
    · obtain ⟨other, found, same⟩ := mirrors.records stored held
      rw [record] at found
      cases found
      rw [decoded] at same
      cases same
      exact ⟨held, rfl⟩
    · rw [← KeySpace.bytes?_eq_some_iff, KeySpace.bytes?_of_isIndex mirrors.fits index] at record
      cases record
  · rintro ⟨held, rfl⟩
    obtain ⟨bytes, record, decoded⟩ := mirrors.records device held
    exact ⟨bytes, KeySpace.bytes?_eq_some_iff.2 record, decoded⟩

theorem hasRecord_iff (mirrors : Mirrors layout space catalog) :
    space.HasRecord key ↔ ∃ device, catalog.Holds device ∧ key = layout.recordKey device.id := by
  constructor
  · intro present
    obtain ⟨bytes, record⟩ := Option.isSome_iff_exists.1 present
    rw [KeySpace.bytes?_eq_some_iff] at record
    rcases mirrors.only key _ record with stored | index
    · exact stored
    · rw [← KeySpace.bytes?_eq_some_iff, KeySpace.bytes?_of_isIndex mirrors.fits index] at record
      cases record
  · rintro ⟨device, held, same⟩
    exact (mirrors.records_iff.2 ⟨held, same⟩).hasRecord

/-- The record of an id is the one of the device that the catalog has under it. -/
theorem records_recordKey_iff (mirrors : Mirrors layout space catalog) :
    space.Records (layout.recordKey id) device ↔ catalog[id]? = some device := by
  rw [mirrors.records_iff, mirrors.valid.lookup_iff]
  refine and_congr_right fun _ => ⟨fun same => ?_, fun same => same ▸ rfl⟩
  exact (Layout.recordKey_injective same).symm

theorem hasRecord_recordKey_iff (mirrors : Mirrors layout space catalog) :
    space.HasRecord (layout.recordKey id) ↔ catalog[id]?.isSome := by
  rw [mirrors.hasRecord_iff, Option.isSome_iff_exists]
  simp only [← mirrors.records_recordKey_iff, mirrors.records_iff]

theorem coherent (mirrors : Mirrors layout space catalog) : space.Coherent layout := by
  constructor
  · intro key
    rw [mirrors.hasRecord_iff, mirrors.ids.lists_iff]
    constructor
    · rintro ⟨device, held, same⟩
      exact ⟨.zero, device, held, trivial, same, rfl⟩
    · rintro ⟨_, device, held, _, same, _⟩
      exact ⟨device, held, same⟩
  · intro group key
    rw [(mirrors.groups group).lists_iff]
    simp only [mirrors.records_iff]
    constructor
    · rintro ⟨_, device, held, member, same, _⟩
      exact ⟨device, ⟨held, same⟩, member⟩
    · rintro ⟨device, ⟨held, same⟩, member⟩
      exact ⟨_, device, held, member, same, rfl⟩

end Mirrors

/-! ## What a batch leaves -/

namespace Directory

variable {layout : Layout} {space : KeySpace} {id : String} {old new : Device} {batch : Batch}

section Effects

variable {record ids names : Option Entry → Option Entry}
variable {groups : Group → Option Entry → Option Entry}

theorem Effects.bytes?_applyAll (effects : Effects layout id batch record ids names groups)
    (fits : layout.typing.Fits space) (suits : ∀ command ∈ batch, layout.typing.Suits command)
    {key : String} (different : key ≠ layout.recordKey id) :
    (space.applyAll batch).bytes? key = space.bytes? key := by
  by_cases index : layout.IsIndex key
  · rw [KeySpace.bytes?_of_isIndex fits index,
      KeySpace.bytes?_of_isIndex (fits.applyAll suits) index]
  · rw [KeySpace.bytes?, KeySpace.bytes?, KeySpace.getElem?_applyAll,
      effects.elsewhere key _ different index]

/-- A batch about one id that leaves all other keys in their places keeps the key space coherent
exactly when the record, the index of ids and the groups agree about this id afterwards. -/
theorem Effects.coherent_iff (effects : Effects layout id batch record ids names groups)
    (fits : layout.typing.Fits space) (suits : ∀ command ∈ batch, layout.typing.Suits command)
    (coherent : space.Coherent layout)
    (idsKept : ∀ other, layout.recordKey id ≠ other →
      (Entry.Lists (ids space[layout.idIndex]?) other ↔ Entry.Lists space[layout.idIndex]? other))
    (groupsKept : ∀ group other, layout.recordKey id ≠ other →
      (Entry.Lists (groups group space[layout.groupIndex group]?) other ↔
        Entry.Lists space[layout.groupIndex group]? other)) :
    (space.applyAll batch).Coherent layout ↔
      ((space.applyAll batch).HasRecord (layout.recordKey id) ↔
        Entry.Lists (ids space[layout.idIndex]?) (layout.recordKey id)) ∧
      ∀ group, Entry.Lists (groups group space[layout.groupIndex group]?) (layout.recordKey id) ↔
        ∃ device, (space.applyAll batch).Records (layout.recordKey id) device ∧
          device.MemberOf group := by
  have index : (space.applyAll batch)[layout.idIndex]? = ids space[layout.idIndex]? := by
    rw [KeySpace.getElem?_applyAll, effects.ids]
  have grouping (group : Group) : (space.applyAll batch)[layout.groupIndex group]? =
      groups group space[layout.groupIndex group]? := by
    rw [KeySpace.getElem?_applyAll, effects.groups]
  constructor
  · rintro ⟨indexed, grouped⟩
    exact ⟨index ▸ indexed _, fun group => grouping group ▸ grouped group _⟩
  · rintro ⟨indexed, grouped⟩
    constructor
    · intro key
      rw [index]
      by_cases own : layout.recordKey id = key
      · exact own ▸ indexed
      · rw [KeySpace.HasRecord, effects.bytes?_applyAll fits suits (Ne.symm own), idsKept key own]
        exact coherent.indexed key
    · intro group key
      rw [grouping]
      by_cases own : layout.recordKey id = key
      · exact own ▸ grouped group
      · simp only [KeySpace.Records, effects.bytes?_applyAll fits suits (Ne.symm own)]
        rw [groupsKept group key own]
        exact coherent.grouped group key

end Effects

/-- A replacement keeps the key space coherent exactly when it finds a record to replace and covers
every group that the device is in. -/
theorem coherent_replacement_iff (fits : layout.typing.Fits space)
    (coherent : space.Coherent layout) (admits : layout.Admits new.id) :
    (space.applyAll (replacement layout old new)).Coherent layout ↔
      space.HasRecord (layout.recordKey new.id) ∧
        ∀ current, space.Records (layout.recordKey new.id) current →
          ∀ group, current.MemberOf group → old.MemberOf group ∨ new.MemberOf group := by
  have effects := @effects_replacement layout old new admits
  have suited (group : Group) := fits _ _ (Layout.Keeps.group group)
  have written : (space.applyAll (replacement layout old new)).bytes? (layout.recordKey new.id) =
      some new.encode := by
    rw [KeySpace.bytes?_eq_some_iff, KeySpace.getElem?_applyAll, effects.record]
  have stored (device : Device) :
      (space.applyAll (replacement layout old new)).Records (layout.recordKey new.id) device ↔
        device = new := by
    simp [KeySpace.Records, written, new.decode_encode, eq_comm]
  rw [effects.coherent_iff fits (suits_replacement admits) coherent (fun _ _ => Iff.rfl) ?kept]
  case kept =>
    intro group other different
    split
    next => simp [Entry.lists_zadd (suited group), different]
    next =>
      split
      next => simp [Entry.lists_zrem, different]
      next => rfl
  refine and_congr ?_ ?_
  · rw [coherent.indexed]
    simp [KeySpace.HasRecord, written]
  · simp only [stored, exists_eq_left]
    constructor
    · intro grouped current recorded group member
      by_contra uncovered
      obtain ⟨unknown, unwanted⟩ := not_or.1 uncovered
      have left := grouped group
      rw [if_neg unwanted, if_neg unknown] at left
      exact unwanted (left.1 ((coherent.grouped group _).2 ⟨current, recorded, member⟩))
    · intro covered group
      split
      next member => simp [Entry.lists_zadd (suited group), member]
      next unwanted =>
        split
        next => simp [Entry.lists_zrem, unwanted]
        next unknown =>
          rw [coherent.grouped]
          refine iff_of_false ?_ unwanted
          rintro ⟨current, recorded, member⟩
          exact (covered current recorded group member).elim unknown unwanted

/-- A removal keeps the key space coherent exactly when it covers every group that the device is
in. -/
theorem coherent_removal_iff (fits : layout.typing.Fits space) (coherent : space.Coherent layout)
    (admits : layout.Admits old.id) :
    (space.applyAll (removal layout old)).Coherent layout ↔
      ∀ current, space.Records (layout.recordKey old.id) current →
        ∀ group, current.MemberOf group → old.MemberOf group := by
  have effects := @effects_removal layout old admits
  have erased : (space.applyAll (removal layout old)).bytes? (layout.recordKey old.id) = none := by
    rw [KeySpace.bytes?, KeySpace.getElem?_applyAll, effects.record]
  rw [effects.coherent_iff fits suits_removal coherent ?ids ?groups]
  case ids => exact fun other different => by simp [Entry.lists_zrem, different]
  case groups =>
    intro group other different
    split
    next => simp [Entry.lists_zrem, different]
    next => rfl
  have unlisted : (space.applyAll (removal layout old)).HasRecord (layout.recordKey old.id) ↔
      Entry.Lists ((Command.zrem layout.idIndex (layout.recordKey old.id)).effect
        space[layout.idIndex]?) (layout.recordKey old.id) := by
    simp [KeySpace.HasRecord, erased, Entry.lists_zrem]
  have gone (device : Device) :
      ¬ (space.applyAll (removal layout old)).Records (layout.recordKey old.id) device := by
    simp [KeySpace.Records, erased]
  rw [and_iff_right unlisted]
  simp only [gone, false_and, exists_false, iff_false]
  constructor
  · intro grouped current recorded group member
    by_contra unknown
    have left := grouped group
    rw [if_neg unknown] at left
    exact left ((coherent.grouped group _).2 ⟨current, recorded, member⟩)
  · intro covered group
    split
    next => simp [Entry.lists_zrem]
    next unknown =>
      rw [coherent.grouped]
      rintro ⟨current, recorded, member⟩
      exact unknown (covered current recorded group member)

end Directory

end DeviceCatalog
