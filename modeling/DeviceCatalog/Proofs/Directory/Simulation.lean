import DeviceCatalog.Proofs.Directory.Discipline
import DeviceCatalog.Proofs.Directory.Meaning
import DeviceCatalog.Proofs.Directory.Preservation
import DeviceCatalog.Proofs.Directory.Typing

/-!
# Calls on the image of a catalog

On the image of a catalog every call that is not asked for a page results in what it means for the
catalog, and leaves the image of the catalog that it means to leave.
-/

namespace DeviceCatalog

namespace Catalog

variable {catalog : Catalog} {layout : Layout} {device : Device} {name : String}

theorem mem_devices (valid : catalog.Valid layout) :
    device ∈ catalog.devices ↔ catalog.Holds device := by
  rw [devices, List.mem_map]
  constructor
  · rintro ⟨⟨id, found⟩, listed, rfl⟩
    rw [Std.ExtTreeMap.mem_toList_iff_getElem?_eq_some] at listed
    exact (valid.lookup_iff.1 listed).1
  · intro held
    exact ⟨(device.id, device), Std.ExtTreeMap.mem_toList_iff_getElem?_eq_some.2 held, rfl⟩

theorem bearer?_eq_some_iff (valid : catalog.Valid layout) :
    catalog.bearer? name = some device ↔ catalog.Holds device ∧ device.name = name := by
  constructor
  · intro found
    have bears := List.find?_some found
    exact ⟨(mem_devices valid).1 (List.mem_of_find?_eq_some found), by simpa using bears⟩
  · rintro ⟨held, rfl⟩
    cases found : catalog.bearer? device.name with
    | none =>
        have apart := List.find?_eq_none.1 found device ((mem_devices valid).2 held)
        simp at apart
    | some other =>
        have bears := List.find?_some found
        have otherHeld := (mem_devices valid).1 (List.mem_of_find?_eq_some found)
        rw [valid.distinct other device otherHeld held (by simpa using bears)]

/-- The name of a device that replaces another one is borne by a third one just when it is a new name
that is borne at all. -/
theorem borne_by_other (valid : catalog.Valid layout) {old : Device} (held : catalog.Holds old)
    (same : old.id = device.id) :
    (∃ other ∈ catalog.devices, other.id ≠ device.id ∧ other.name = device.name) ↔
      old.name ≠ device.name ∧ ∃ other ∈ catalog.devices, other.name = device.name := by
  constructor
  · rintro ⟨other, listed, different, bears⟩
    refine ⟨fun kept => different ?_, other, listed, bears⟩
    rw [valid.distinct other old ((mem_devices valid).1 listed) held (bears.trans kept.symm), same]
  · rintro ⟨renamed, other, listed, bears⟩
    refine ⟨other, listed, fun ids => renamed ?_, bears⟩
    rw [held.eq_of_id ((mem_devices valid).1 listed) (same.trans ids.symm), bears]

theorem id_of_unborne (valid : catalog.Valid layout)
    (unborne : ¬ ∃ other ∈ catalog.devices, other.id ≠ device.id ∧ other.name = device.name) :
    ∀ other, catalog.Holds other → other.name = device.name → other.id = device.id := by
  intro other held bears
  by_contra different
  exact unborne ⟨other, (mem_devices valid).2 held, different, bears⟩

theorem isSome_bearer? : (catalog.bearer? name).isSome ↔
    ∃ other ∈ catalog.devices, other.name = name := by
  simp [bearer?]

end Catalog

namespace Directory.Action

variable {result next source : Type} [Clock source] {space : KeySpace} {clock : source}

theorem evaluate_bind (action : Action result) (continuation : result → Action next) :
    (action >>= continuation).run.evaluate space clock =
      match action.run.evaluate space clock with
      | (.ok value, after, later) => (continuation value).run.evaluate after later
      | (.error failure, after, later) => (.error failure, after, later) := by
  rw [ExceptT.run_bind, Script.bind_eq, Script.evaluate_bind]
  rcases action.run.evaluate space clock with ⟨outcome, after, later⟩
  cases outcome <;> rfl

theorem evaluate_bind_of_ok {action : Action result} {continuation : result → Action next}
    {value : result} {after : KeySpace} {later : source}
    (evaluated : action.run.evaluate space clock = (.ok value, after, later)) :
    (action >>= continuation).run.evaluate space clock =
      (continuation value).run.evaluate after later := by
  rw [evaluate_bind, evaluated]

theorem evaluate_bind_of_error {action : Action result} {continuation : result → Action next}
    {failure : Error} {after : KeySpace} {later : source}
    (evaluated : action.run.evaluate space clock = (.error failure, after, later)) :
    (action >>= continuation).run.evaluate space clock = (.error failure, after, later) := by
  rw [evaluate_bind, evaluated]

theorem evaluate_ofExcept (value : result) (clock : source) :
    (Action.ofExcept (.ok value)).run.evaluate space clock = (.ok value, space, clock) := rfl

theorem evaluate_ask {description : String} {query : Query} {answer : query.Answer}
    (answered : space.answer query = .ok answer) :
    (Action.ask description query).run.evaluate space clock = (.ok answer, space, clock) := by
  have evaluated : (Action.ask description query).run.evaluate space clock =
      ((space.answer query).mapError (fault description), space, clock) := rfl
  rw [evaluated, answered]
  rfl

theorem evaluate_ask_of_error {description : String} {query : Query} {failure : StorageError}
    (failed : space.answer query = .error failure) :
    (Action.ask description query).run.evaluate space clock =
      (.error (fault description failure), space, clock) := by
  have evaluated : (Action.ask description query).run.evaluate space clock =
      ((space.answer query).mapError (fault description), space, clock) := rfl
  rw [evaluated, failed]
  rfl

theorem evaluate_commit {description : String} {batch : Batch} {pending : Admission.Pending}
    (admitted : Admission.check space batch = .ok pending) :
    (Action.commit description batch).run.evaluate space clock =
      (.ok (), space.applyAll batch, clock) := by
  simp only [Action.commit, ExceptT.run_mk, Script.evaluate, admitted]
  rfl

theorem evaluate_commit_of_error {description : String} {batch : Batch} {refusal : StorageError}
    (refused : Admission.check space batch = .error refusal) :
    (Action.commit description batch).run.evaluate space clock =
      (.error (fault description refusal), space, clock) := by
  simp only [Action.commit, ExceptT.run_mk, Script.evaluate, refused]
  rfl

theorem evaluate_readClock {now : Int64} {later : source} (told : Clock.read clock = (now, later)) :
    Action.readClock.run.evaluate space clock = (.ok now, space, later) := by
  simp only [Action.readClock, ExceptT.run_mk, Script.evaluate, told]

end Directory.Action

namespace Mirrors

open Directory Action

variable {layout : Layout} {space : KeySpace} {catalog : Catalog} {device : Device}
variable {source : Type} [Clock source]

/-! ## Reading -/

theorem evaluate_existsId (mirrors : Mirrors layout space catalog) (id : String) (clock : source) :
    (existsId layout id).run.evaluate space clock = (.ok (decide (id ∈ catalog)), space, clock) := by
  obtain ⟨set, read, scores⟩ := mirrors.ids.sortedSet
  have answered : space.answer (.zscore layout.idIndex (layout.recordKey id)) =
      .ok (set.score? (layout.recordKey id)) := by
    rw [KeySpace.answer, read]
    rfl
  have known : (set.score? (layout.recordKey id)).isSome = decide (id ∈ catalog) := by
    rw [Bool.eq_iff_iff, Option.isSome_iff_exists, decide_eq_true_iff,
      Std.ExtTreeMap.mem_iff_isSome_getElem?, Option.isSome_iff_exists]
    constructor
    · rintro ⟨rank, scored⟩
      obtain ⟨device, held, _, same, _⟩ := (scores _ _).1 scored
      exact ⟨device, Layout.recordKey_injective same ▸ held⟩
    · rintro ⟨device, found⟩
      obtain ⟨held, rfl⟩ := mirrors.valid.lookup_iff.1 found
      exact ⟨.zero, (scores _ _).2 ⟨device, held, trivial, rfl, rfl⟩⟩
  rw [existsId, evaluate_bind_of_ok (evaluate_ask answered), ← known]
  rfl

theorem evaluate_existsName (mirrors : Mirrors layout space catalog) (name : String)
    (clock : source) :
    (existsName layout name).run.evaluate space clock =
      (.ok (catalog.bearer? name).isSome, space, clock) := by
  obtain ⟨fields, read, cells⟩ := mirrors.names.hash
  have known : fields.contains name = (catalog.bearer? name).isSome := by
    rw [Bool.eq_iff_iff, Std.ExtTreeMap.contains_eq_isSome_getElem?, Option.isSome_iff_exists,
      Option.isSome_iff_exists]
    constructor
    · rintro ⟨key, listed⟩
      obtain ⟨device, held, rfl, _⟩ := (cells _ _).1 listed
      exact ⟨device, (Catalog.bearer?_eq_some_iff mirrors.valid).2 ⟨held, rfl⟩⟩
    · rintro ⟨device, found⟩
      obtain ⟨held, rfl⟩ := (Catalog.bearer?_eq_some_iff mirrors.valid).1 found
      exact ⟨_, (cells _ _).2 ⟨device, held, rfl, rfl⟩⟩
  refine evaluate_ask ?_
  rw [KeySpace.answer, read, ← known]
  rfl

theorem evaluate_existsName_of_borne (mirrors : Mirrors layout space catalog) {name : String}
    (borne : ∃ other ∈ catalog.devices, other.name = name) (clock : source) :
    (existsName layout name).run.evaluate space clock = (.ok true, space, clock) := by
  rw [mirrors.evaluate_existsName, Catalog.isSome_bearer?.2 borne]

theorem evaluate_existsName_of_unborne (mirrors : Mirrors layout space catalog) {name : String}
    (unborne : ¬ ∃ other ∈ catalog.devices, other.name = name) (clock : source) :
    (existsName layout name).run.evaluate space clock = (.ok false, space, clock) := by
  have absent : (catalog.bearer? name).isSome = false :=
    Bool.eq_false_iff.2 fun found => unborne (Catalog.isSome_bearer?.1 found)
  rw [mirrors.evaluate_existsName, absent]

theorem evaluate_deviceAt?_of_record {key : String} {bytes : Bytes}
    (record : space[key]? = some (.string bytes)) (decoded : Device.decode bytes = .ok device)
    (clock : source) :
    (deviceAt? key).run.evaluate space clock = (.ok (some device), space, clock) := by
  have answered : space.answer (.get key) = .ok (some bytes) := by
    simp only [KeySpace.answer, KeySpace.string?, record]
  rw [deviceAt?, evaluate_bind_of_ok (evaluate_ask answered)]
  simp only [decoded]
  rfl

theorem evaluate_deviceAt? (mirrors : Mirrors layout space catalog) (held : catalog.Holds device)
    (clock : source) :
    (deviceAt? (layout.recordKey device.id)).run.evaluate space clock =
      (.ok (some device), space, clock) := by
  obtain ⟨bytes, record, decoded⟩ := mirrors.records device held
  exact evaluate_deviceAt?_of_record record decoded clock

theorem evaluate_deviceAt?_of_absent {key : String} (absent : space[key]? = none)
    (clock : source) :
    (deviceAt? key).run.evaluate space clock = (.ok none, space, clock) := by
  have answered : space.answer (.get key) = .ok none := by
    simp only [KeySpace.answer, KeySpace.string?, absent]
  rw [deviceAt?, evaluate_bind_of_ok (evaluate_ask answered)]
  rfl

theorem evaluate_deviceAt?_of_error {key : String} {failure : StorageError}
    (failed : space.answer (.get key) = .error failure) (clock : source) :
    (deviceAt? key).run.evaluate space clock =
      (.error (fault "device query failed" failure), space, clock) := by
  rw [deviceAt?, evaluate_bind_of_error (evaluate_ask_of_error failed)]

/-- An id that is not reserved and that no device has leads to no key, unless it is empty and nothing
separates it from the collection. -/
theorem record_absent (mirrors : Mirrors layout space catalog) {id : String}
    (separated : layout.separator ≠ "" ∨ id ≠ "") (unreserved : layout.isReserved id = false)
    (unknown : catalog[id]? = none) : space[layout.recordKey id]? = none := by
  cases present : space[layout.recordKey id]? with
  | none => rfl
  | some entry =>
      rcases mirrors.only _ entry present with ⟨device, held, same⟩ | index
      · rw [Layout.recordKey_injective same, held] at unknown
        cases unknown
      · rcases index with ids | names | ⟨group, path⟩
        · obtain ⟨separator, empty⟩ := Layout.recordKey_eq_idIndex_iff.1 ids
          exact absurd empty (separated.resolve_left fun nonempty => nonempty separator)
        · rw [(layout.isReserved_iff id).2 (.inl (Layout.recordKey_injective names))] at unreserved
          cases unreserved
        · rw [Layout.groupIndex_eq] at path
          have reserved : layout.isReserved id = true :=
            (layout.isReserved_iff id).2 (.inr ⟨group, Layout.recordKey_injective path⟩)
          rw [reserved] at unreserved
          cases unreserved

/-- An id under whose key nothing is stored is not found, be it reserved or not. -/
theorem evaluate_deviceById_of_vacant {id : String} (vacant : space[layout.recordKey id]? = none)
    (clock : source) :
    (deviceById layout id).run.evaluate space clock = (.error (unknownId id), space, clock) := by
  rw [deviceById]
  split
  next => rfl
  next =>
    rw [evaluate_bind_of_ok (evaluate_deviceAt?_of_absent vacant clock)]
    rfl

theorem evaluate_deviceById (mirrors : Mirrors layout space catalog) {id : String}
    (separated : layout.separator ≠ "" ∨ id ≠ "") (clock : source) :
    (deviceById layout id).run.evaluate space clock =
      (Catalog.answer catalog[id]? (unknownId id), space, clock) := by
  cases found : catalog[id]? with
  | none =>
      cases reserved : layout.isReserved id with
      | true =>
          rw [deviceById, if_pos reserved]
          rfl
      | false =>
          have vacant := mirrors.record_absent separated reserved found
          exact evaluate_deviceById_of_vacant vacant clock
  | some device =>
      obtain ⟨held, rfl⟩ := mirrors.valid.lookup_iff.1 found
      have unreserved := (mirrors.valid.admits device held).unreserved
      rw [deviceById, if_neg (by simp [unreserved]),
        evaluate_bind_of_ok (mirrors.evaluate_deviceAt? held clock)]
      rfl

/-- Where the key of the record of the empty id is that of the index of ids, and the index is there, the
look-up fails on it. -/
theorem evaluate_deviceById_of_joined (joined : layout.separator = "") {set : SortedSet}
    (present : space[layout.idIndex]? = some (.sortedSet set)) (clock : source) :
    (deviceById layout "").run.evaluate space clock =
      (.error (fault "device query failed" (.wrongType layout.idIndex .string .sortedSet)),
        space, clock) := by
  have failed : space.answer (.get layout.idIndex) =
      .error (.wrongType layout.idIndex .string .sortedSet) := by
    simp only [KeySpace.answer, KeySpace.string?, present, Entry.kind]
  rw [deviceById, if_neg (by simp [layout.isReserved_empty]),
    Layout.recordKey_eq_idIndex_iff.2 ⟨joined, rfl⟩,
    evaluate_bind_of_error (evaluate_deviceAt?_of_error failed clock)]

/-- An id that no device has is not found, even where the key of its record is that of the index of
ids. -/
theorem evaluate_deviceById_of_absent (mirrors : Mirrors layout space catalog) {id : String}
    (unknown : catalog[id]? = none) (clock : source) :
    ∃ failure, (deviceById layout id).run.evaluate space clock = (.error failure, space, clock) := by
  by_cases separated : layout.separator ≠ "" ∨ id ≠ ""
  · rw [mirrors.evaluate_deviceById separated, unknown]
    exact ⟨_, rfl⟩
  · obtain ⟨joined, rfl⟩ : layout.separator = "" ∧ id = "" := by simpa using separated
    rcases mirrors.ids.vacant_or_set with vacant | ⟨set, present⟩
    · rw [← Layout.recordKey_eq_idIndex_iff.2 ⟨joined, rfl⟩] at vacant
      exact ⟨_, evaluate_deviceById_of_vacant vacant clock⟩
    · exact ⟨_, evaluate_deviceById_of_joined joined present clock⟩

theorem evaluate_deviceByName (mirrors : Mirrors layout space catalog) (name : String)
    (clock : source) :
    (deviceByName layout name).run.evaluate space clock =
      (Catalog.answer (catalog.bearer? name) (unknownName name), space, clock) := by
  obtain ⟨fields, read, cells⟩ := mirrors.names.hash
  have answered : space.answer (.hget layout.nameIndex name) = .ok fields[name]? := by
    rw [KeySpace.answer, read]
    rfl
  rw [deviceByName, evaluate_bind_of_ok (evaluate_ask answered)]
  cases found : catalog.bearer? name with
  | none =>
      have absent : fields[name]? = none := by
        apply Option.eq_none_iff_forall_ne_some.2
        intro key listed
        obtain ⟨device, held, rfl, _⟩ := (cells _ _).1 listed
        rw [(Catalog.bearer?_eq_some_iff mirrors.valid).2 ⟨held, rfl⟩] at found
        cases found
      rw [absent]
      rfl
  | some device =>
      obtain ⟨held, rfl⟩ := (Catalog.bearer?_eq_some_iff mirrors.valid).1 found
      have listed : fields[device.name]? = some (layout.recordKey device.id) :=
        (cells _ _).2 ⟨device, held, rfl, rfl⟩
      rw [listed]
      simp only
      rw [evaluate_bind_of_ok (mirrors.evaluate_deviceAt? held clock)]
      rfl

/-! ## Writing -/

/-- The evaluation of a call gives what the call means for the catalog. -/
structure Realizes {result : Type} (layout : Layout)
    (evaluated : Except Error result × KeySpace × source)
    (meant : Except Error result × Catalog × source) : Prop where
  outcome : evaluated.1 = meant.1
  clock : evaluated.2.2 = meant.2.2
  mirrors : Mirrors layout evaluated.2.1 meant.2.1

/-- The end of a write that stores a device: the batch is admitted whatever the time is. -/
theorem realizes_store {description : String} {stamped : Int64 → Device} {batch : Device → Batch}
    (admitted : ∀ now, ∃ pending, Admission.check space (batch (stamped now)) = .ok pending)
    (stored : ∀ now, Mirrors layout (space.applyAll (batch (stamped now)))
      (catalog.insert (stamped now).id (stamped now))) (clock : source) :
    Realizes layout
      ((do
        let now ← Action.readClock
        Action.commit description (batch (stamped now))
        return stamped now : Action Device).run.evaluate space clock)
      (catalog.store stamped clock) := by
  rw [Catalog.store]
  rcases told : Clock.read clock with ⟨now, later⟩
  obtain ⟨pending, check⟩ := admitted now
  rw [evaluate_bind_of_ok (evaluate_readClock told), evaluate_bind_of_ok (evaluate_commit check)]
  exact ⟨rfl, rfl, stored now⟩

theorem realizes_create (mirrors : Mirrors layout space catalog) (device : Device)
    (clock : source) :
    Realizes layout ((create layout device).run.evaluate space clock)
      (catalog.create layout device clock) := by
  rw [create, Catalog.create, Catalog.validateFor_eq]
  cases accepted : Catalog.refusal? layout device with
  | some reason => exact ⟨rfl, rfl, mirrors⟩
  | none =>
      obtain ⟨admits, named⟩ := Catalog.admits_of_refusal? accepted
      simp only
      rw [evaluate_bind_of_ok (evaluate_ofExcept () clock),
        evaluate_bind_of_ok (mirrors.evaluate_existsId device.id clock)]
      by_cases taken : device.id ∈ catalog
      · simp only [taken, decide_true, if_true]
        exact ⟨rfl, rfl, mirrors⟩
      · simp only [taken, decide_false, if_false]
        have absent : catalog[device.id]? = none := by simpa using taken
        rw [if_neg Bool.false_ne_true]
        by_cases borne : ∃ other ∈ catalog.devices, other.name = device.name
        · rw [if_pos borne,
            evaluate_bind_of_ok (mirrors.evaluate_existsName_of_borne borne clock)]
          exact ⟨rfl, rfl, mirrors⟩
        · rw [if_neg borne,
            evaluate_bind_of_ok (mirrors.evaluate_existsName_of_unborne borne clock)]
          refine realizes_store (fun now => ?_) (fun now => ?_) clock
          · exact mirrors.fits.check (suits_insertion admits)
          · refine mirrors.insertion admits named absent fun other held same => ?_
            exact borne ⟨other, (Catalog.mem_devices mirrors.valid).2 held, same⟩

/-- The end of an update whose name no other device bears. -/
theorem realizes_replacement (mirrors : Mirrors layout space catalog) {old : Device}
    (held : catalog.Holds old) (same : old.id = device.id) (named : device.name ≠ "")
    (unborne : ∀ other, catalog.Holds other → other.name = device.name → other.id = device.id)
    (clock : source) :
    Realizes layout
      ((do
        let now ← Action.readClock
        let stored := { device with created := old.created, modified := now }
        Action.commit "device update failed" (Directory.replacement layout old stored)
        return stored : Action Device).run.evaluate space clock)
      (catalog.store (fun now => { device with created := old.created, modified := now }) clock) := by
  have admits : layout.Admits device.id := same ▸ mirrors.valid.admits old held
  refine realizes_store (fun now => ?_) (fun now => ?_) clock
  · exact mirrors.fits.check (suits_replacement admits)
  · exact mirrors.replacement held same named unborne

theorem realizes_update (mirrors : Mirrors layout space catalog) (device : Device)
    (clock : source) :
    Realizes layout ((update layout device).run.evaluate space clock)
      (catalog.update layout device clock) := by
  rw [update, Catalog.update, Catalog.validateFor_eq]
  cases accepted : Catalog.refusal? layout device with
  | some reason => exact ⟨rfl, rfl, mirrors⟩
  | none =>
      obtain ⟨admits, named⟩ := Catalog.admits_of_refusal? accepted
      have found := mirrors.evaluate_deviceById (.inr admits.nonempty) clock
      simp only
      rw [evaluate_bind_of_ok (evaluate_ofExcept () clock)]
      cases lookup : catalog[device.id]? with
      | none =>
          rw [lookup] at found
          rw [evaluate_bind_of_error found]
          exact ⟨rfl, rfl, mirrors⟩
      | some old =>
          rw [lookup] at found
          rw [evaluate_bind_of_ok found]
          dsimp only
          obtain ⟨held, same⟩ := mirrors.valid.lookup_iff.1 lookup
          have others := Catalog.borne_by_other mirrors.valid held same
          by_cases borne : ∃ other ∈ catalog.devices,
              other.id ≠ device.id ∧ other.name = device.name
          · obtain ⟨renamed, bears⟩ := others.1 borne
            rw [if_pos borne, if_pos renamed,
              evaluate_bind_of_ok (mirrors.evaluate_existsName_of_borne bears clock)]
            exact ⟨rfl, rfl, mirrors⟩
          · have replaced := mirrors.realizes_replacement held same named
              (Catalog.id_of_unborne mirrors.valid borne) clock
            rw [if_neg borne]
            by_cases renamed : old.name ≠ device.name
            · have free : ¬ ∃ other ∈ catalog.devices, other.name = device.name :=
                fun bears => borne (others.2 ⟨renamed, bears⟩)
              rw [if_pos renamed,
                evaluate_bind_of_ok (mirrors.evaluate_existsName_of_unborne free clock)]
              exact replaced
            · rw [if_neg renamed]
              exact replaced

theorem realizes_remove (mirrors : Mirrors layout space catalog) {find : Action Device}
    {found : Option Device} {missing : Error} {clock : source}
    (evaluated : find.run.evaluate space clock = (Catalog.answer found missing, space, clock))
    (held : ∀ device, found = some device → catalog.Holds device) :
    Realizes layout ((find >>= Directory.remove layout).run.evaluate space clock)
      (catalog.delete found missing clock) := by
  cases found with
  | none =>
      rw [evaluate_bind_of_error evaluated]
      exact ⟨rfl, rfl, mirrors⟩
  | some device =>
      obtain ⟨pending, admitted⟩ := mirrors.fits.check (@suits_removal layout device)
      rw [evaluate_bind_of_ok evaluated, Directory.remove, evaluate_commit admitted]
      exact ⟨rfl, rfl, mirrors.removal (held device rfl)⟩

theorem realizes_deleteById (mirrors : Mirrors layout space catalog) {id : String}
    (separated : layout.separator ≠ "" ∨ id ≠ "") (clock : source) :
    Realizes layout ((deleteById layout id).run.evaluate space clock)
      (catalog.delete catalog[id]? (unknownId id) clock) :=
  mirrors.realizes_remove (mirrors.evaluate_deviceById separated clock) fun _ found =>
    (mirrors.valid.lookup_iff.1 found).1

theorem realizes_deleteByName (mirrors : Mirrors layout space catalog) (name : String)
    (clock : source) :
    Realizes layout ((deleteByName layout name).run.evaluate space clock)
      (catalog.delete (catalog.bearer? name) (unknownName name) clock) :=
  mirrors.realizes_remove (mirrors.evaluate_deviceByName name clock) fun _ found =>
    ((Catalog.bearer?_eq_some_iff mirrors.valid).1 found).1

end Mirrors

end DeviceCatalog
