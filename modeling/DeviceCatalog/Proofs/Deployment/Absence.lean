import DeviceCatalog.Proofs.Deployment

/-!
# Absence and failure

Over a substrate that does not fail, a call fails only with an answer: that the device is not there, that
an id or a name is taken, or that an argument cannot be used. A look-up fails as not found exactly when
the device is not there. One look-up is an exception. Without a separator the key of the record of the
empty id is the key of the index of ids, and the empty id is not reserved. So once a device is stored, the
look-up reads the index for a record, and what is reported is a failure of the substrate.
-/

namespace DeviceCatalog

namespace Error

/-- The failure says something about the arguments or the stored devices, and not that the substrate has
failed or that a record is damaged. -/
def IsVerdict (error : Error) : Prop :=
  error.kind ≠ .databaseError ∧ error.kind ≠ .contractInvalid

theorem isVerdict_notFound (description : String) : (Error.notFound description).IsVerdict := by
  simp [IsVerdict, kind]

theorem isVerdict_duplicateId (id : String) : (Error.duplicateId id).IsVerdict := by
  simp [IsVerdict, kind]

theorem isVerdict_duplicateName (name : String) : (Error.duplicateName name).IsVerdict := by
  simp [IsVerdict, kind]

theorem isVerdict_invalidInput (reason : String) : (Error.invalidInput reason).IsVerdict := by
  simp [IsVerdict, kind]

/-- Whenever this is a failure, it is a verdict. -/
def Conclusive {result : Type} (outcome : Except Error result) : Prop :=
  ∀ error, outcome = .error error → error.IsVerdict

theorem conclusive_ok {result : Type} (value : result) :
    Conclusive (.ok value : Except Error result) := nofun

theorem conclusive_error {result : Type} {error : Error} (verdict : error.IsVerdict) :
    Conclusive (.error error : Except Error result) := by
  rintro _ ⟨⟩
  exact verdict

end Error

open Error

theorem Window.conclusive_resolve (offset : UInt64) (limit : Int64) :
    Conclusive (Window.resolve offset limit) := by
  obtain ⟨_, reason, found⟩ | ⟨_, ⟨_, found⟩ | ⟨_, found⟩ | ⟨_, found⟩⟩ :=
    Window.resolve_cases offset limit
  · exact found ▸ conclusive_error (isVerdict_invalidInput reason)
  · exact found ▸ conclusive_ok _
  · exact found ▸ conclusive_ok _
  · exact found ▸ conclusive_ok _

/-! ## What the calls mean -/

namespace Catalog

open Directory

variable {layout : Layout} {catalog : Catalog} {source : Type} {clock : source}

theorem isVerdict_of_refusal? {device : Device} {reason : Error}
    (refused : refusal? layout device = some reason) : reason.IsVerdict := by
  rw [refusal?] at refused
  split at refused
  next =>
    cases refused
    exact isVerdict_invalidInput _
  next =>
    split at refused
    next =>
      cases refused
      exact isVerdict_invalidInput _
    next =>
      split at refused
      next =>
        cases refused
        exact isVerdict_invalidInput _
      next => cases refused

theorem conclusive_create [Clock source] (device : Device) :
    Conclusive (catalog.create layout device clock).1 := by
  rw [create]
  split
  next reason refused => exact conclusive_error (isVerdict_of_refusal? refused)
  next =>
    split
    next => exact conclusive_error (isVerdict_duplicateId _)
    next =>
      split
      next => exact conclusive_error (isVerdict_duplicateName _)
      next => exact conclusive_ok _

theorem conclusive_update [Clock source] (device : Device) :
    Conclusive (catalog.update layout device clock).1 := by
  rw [update]
  split
  next reason refused => exact conclusive_error (isVerdict_of_refusal? refused)
  next =>
    split
    next => exact conclusive_error (isVerdict_notFound _)
    next =>
      split
      next => exact conclusive_error (isVerdict_duplicateName _)
      next => exact conclusive_ok _

end Catalog

/-! ## Pages

A page is made of keys that stand in an index, however its ranks come out, and behind each of them is the
record of a device. -/

namespace Mirrors

open Directory Action

variable {layout : Layout} {space : KeySpace} {catalog : Catalog} {source : Type} [Clock source]
variable {keep : Device → Prop} {score : Device → Score} {key : String} {keys : List String}

/-- Each of the keys is the record key of a stored device. -/
def Leads (layout : Layout) (catalog : Catalog) (keys : List String) : Prop :=
  ∀ key ∈ keys, ∃ device, catalog.Holds device ∧ key = layout.recordKey device.id

theorem leads_members {set : SortedSet}
    (scores : ∀ member rank,
      set.score? member = some rank ↔ catalog.Scored layout keep score member rank) :
    Leads layout catalog set.members := by
  intro member listed
  obtain ⟨rank, scored⟩ := Option.isSome_iff_exists.1 (SortedSet.mem_members.1 listed)
  obtain ⟨device, held, _, same, _⟩ := (scores member rank).1 scored
  exact ⟨device, held, same⟩

/-- A range of an index is read, and its keys lead to devices. -/
theorem exists_answer_zrevrange (ranks : Entry.Ranks space[key]? (catalog.Scored layout keep score))
    (first last : Int64) :
    ∃ keys, space.answer (.zrevrange key first last) = .ok keys ∧ Leads layout catalog keys := by
  obtain ⟨set, read, scores⟩ := ranks.sortedSet
  refine ⟨set.revRange first last, ?_, fun member listed => ?_⟩
  · rw [KeySpace.answer, read]
    rfl
  · exact leads_members scores member (SortedSet.mem_of_mem_revRange listed)

theorem conclusive_fetch (mirrors : Mirrors layout space catalog) (leads : Leads layout catalog keys)
    (clock : source) : Conclusive ((fetch keys).run.evaluate space clock).1 := by
  rw [evaluate_fetch]
  obtain ⟨devices, found⟩ := KeySpace.exists_devicesAt_iff.2 fun key listed => by
    obtain ⟨device, held, same⟩ := leads key listed
    exact ⟨device, mirrors.records_iff.2 ⟨held, same⟩⟩
  rw [found]
  exact conclusive_ok devices

/-- A page is refused for its window, or it is empty, or it is taken. -/
theorem conclusive_window {offset : UInt64} {limit : Int64} {clock : source}
    {take : Window → Action (List Device)}
    (takes : ∀ window, Conclusive ((take window).run.evaluate space clock).1) :
    Conclusive ((do
      match ← Action.ofExcept (Window.resolve offset limit) with
      | none => return []
      | some window => take window : Action (List Device)).run.evaluate space clock).1 := by
  cases resolved : Window.resolve offset limit with
  | error failure => exact conclusive_error (Window.conclusive_resolve offset limit failure resolved)
  | ok window =>
      cases window with
      | none => exact conclusive_ok []
      | some window =>
          rw [evaluate_bind_of_ok (evaluate_ofExcept (some window) clock)]
          exact takes window

theorem conclusive_page (mirrors : Mirrors layout space catalog)
    (ranks : Entry.Ranks space[key]? (catalog.Scored layout keep score)) (offset : UInt64)
    (limit : Int64) (clock : source) :
    Conclusive ((page key offset limit).run.evaluate space clock).1 := by
  refine conclusive_window fun window => ?_
  obtain ⟨keys, answered, leads⟩ :=
    exists_answer_zrevrange ranks window.ranks.1 window.ranks.2
  rw [evaluate_bind_of_ok (evaluate_ask answered)]
  exact mirrors.conclusive_fetch leads clock

/-- Intersecting with the groups of labels keeps some of the keys. -/
theorem evaluate_keepLabelled_subset (mirrors : Mirrors layout space catalog) (labels : List String)
    (keys : List String) (clock : source) :
    ∃ kept ⊆ keys, (keepLabelled layout keys labels).run.evaluate space clock =
      (.ok kept, space, clock) := by
  induction labels generalizing keys with
  | nil => exact ⟨keys, List.Subset.refl keys, rfl⟩
  | cons label rest ih =>
      rw [keepLabelled]
      split
      next => exact ⟨keys, List.Subset.refl keys, rfl⟩
      next =>
        obtain ⟨set, read, _⟩ := (mirrors.groups (.label label)).sortedSet
        have answered : space.answer (.zrange (layout.labelIndex label) 0 (-1)) =
            .ok (set.range 0 (-1)) := by
          rw [KeySpace.answer, ← Layout.groupIndex, read]
          rfl
        obtain ⟨kept, within, evaluated⟩ :=
          ih (keys.filter ((set.range 0 (-1)).contains ·))
        rw [evaluate_bind_of_ok (evaluate_ask answered), evaluated]
        exact ⟨kept, List.Subset.trans within (List.filter_subset_self _), rfl⟩

theorem conclusive_devicesByLabels (mirrors : Mirrors layout space catalog) (offset : UInt64)
    (limit : Int64) (labels : List String) (clock : source) :
    Conclusive ((devicesByLabels layout offset limit labels).run.evaluate space clock).1 := by
  rw [devicesByLabels]
  split
  next => exact mirrors.conclusive_page mirrors.ids offset limit clock
  next label _ => exact mirrors.conclusive_page (mirrors.groups (.label label)) offset limit clock
  next first rest _ _ =>
    refine conclusive_window fun window => ?_
    obtain ⟨keys, answered, leads⟩ :=
      exists_answer_zrevrange (mirrors.groups (.label first)) 0 (-1)
    rw [Layout.groupIndex] at answered
    obtain ⟨kept, within, evaluated⟩ := mirrors.evaluate_keepLabelled_subset rest keys clock
    rw [evaluate_bind_of_ok (evaluate_ask answered), evaluate_bind_of_ok evaluated]
    exact mirrors.conclusive_fetch
      (fun key listed => leads key (within (Window.mem_of_mem_slice listed))) clock

/-! ## Look-ups -/

/-- A search succeeds when what it looks for is there, and otherwise fails with that it is not. -/
structure Locates {result : Type} (outcome : Except Error result) (known : Bool) : Prop where
  succeeds : (∃ answer, outcome = .ok answer) ↔ known = true
  fails : (∃ error, outcome = .error error ∧ error.kind = .notFound) ↔ known = false

theorem locates_ok {result : Type} (answer : result) : Locates (.ok answer) true where
  succeeds := ⟨fun _ => rfl, fun _ => ⟨answer, rfl⟩⟩
  fails := ⟨fun ⟨_, failed, _⟩ => (nomatch failed), nofun⟩

theorem locates_notFound {result : Type} (description : String) :
    Locates (.error (.notFound description) : Except Error result) false where
  succeeds := ⟨fun ⟨_, answered⟩ => (nomatch answered), nofun⟩
  fails := ⟨fun _ => rfl, fun _ => ⟨_, rfl, rfl⟩⟩

theorem Locates.conclusive {result : Type} {outcome : Except Error result} {known : Bool}
    (locates : Locates outcome known) : Conclusive outcome := by
  rintro error rfl
  have unknown : known = false := by
    rw [Bool.eq_false_iff, Ne, ← locates.succeeds]
    exact nofun
  obtain ⟨_, ⟨⟩, kind⟩ := locates.fails.2 unknown
  rw [IsVerdict, kind]
  decide

/-- A device that is looked for, or looked for to be removed, is located with what is found of it. -/
theorem locates_found (mirrors : Mirrors layout space catalog) {find : Action Device}
    {found : Option Device} {description : String} {clock : source}
    (evaluated : find.run.evaluate space clock =
      (Catalog.answer found (.notFound description), space, clock))
    (held : ∀ device, found = some device → catalog.Holds device) :
    Locates (find.run.evaluate space clock).1 found.isSome ∧
      Locates ((find >>= Directory.remove layout).run.evaluate space clock).1 found.isSome := by
  rw [(mirrors.realizes_remove evaluated held).outcome, evaluated]
  cases found with
  | none => exact ⟨locates_notFound description, locates_notFound description⟩
  | some device => exact ⟨locates_ok device, locates_ok ()⟩

theorem locates_byId (mirrors : Mirrors layout space catalog) {id : String}
    (clear : layout.separator = "" → id = "" → ∀ device, ¬ catalog.Holds device) (clock : source) :
    Locates ((deviceById layout id).run.evaluate space clock).1 (decide (id ∈ catalog)) ∧
      Locates ((deleteById layout id).run.evaluate space clock).1 (decide (id ∈ catalog)) := by
  have known : decide (id ∈ catalog) = catalog[id]?.isSome := by
    rw [Bool.eq_iff_iff, decide_eq_true_iff, Std.ExtTreeMap.mem_iff_isSome_getElem?]
  have evaluated : (deviceById layout id).run.evaluate space clock =
      (Catalog.answer catalog[id]? (unknownId id), space, clock) := by
    by_cases separated : layout.separator ≠ "" ∨ id ≠ ""
    · exact mirrors.evaluate_deviceById separated clock
    · obtain ⟨joined, rfl⟩ : layout.separator = "" ∧ id = "" := by simpa using separated
      have nobody := clear joined rfl
      have unknown : catalog[""]? = none := Option.eq_none_iff_forall_ne_some.2 fun device found =>
        nobody device (mirrors.valid.lookup_iff.1 found).1
      have vacant := mirrors.ids.eq_none fun _ _ scored =>
        scored.elim fun device held => nobody device held.1
      rw [← Layout.recordKey_eq_idIndex_iff.2 ⟨joined, rfl⟩] at vacant
      rw [evaluate_deviceById_of_vacant vacant clock, unknown]
      rfl
  rw [known]
  exact mirrors.locates_found evaluated fun device found => (mirrors.valid.lookup_iff.1 found).1

theorem locates_byName (mirrors : Mirrors layout space catalog) (name : String) (clock : source) :
    Locates ((deviceByName layout name).run.evaluate space clock).1 (catalog.bearer? name).isSome ∧
      Locates ((deleteByName layout name).run.evaluate space clock).1
        (catalog.bearer? name).isSome :=
  mirrors.locates_found (mirrors.evaluate_deviceByName name clock) fun _ found =>
    ((Catalog.bearer?_eq_some_iff mirrors.valid).1 found).1

/-! ## All calls -/

/-- A call over the image of a catalog fails only with a verdict, when it does not mistake the index of
ids for the record of the empty id. -/
theorem conclusive_evaluate (mirrors : Mirrors layout space catalog) (clock : source)
    {request : Request}
    (clear : layout.separator = "" → request.looksForEmptyId = true →
      ∀ device, ¬ catalog.Holds device) :
    Conclusive ((request.action layout).run.evaluate space clock).1 := by
  have apart (id : String) (given : layout.separator = "" → id.isEmpty = true →
      ∀ device, ¬ catalog.Holds device) : layout.separator = "" → id = "" →
      ∀ device, ¬ catalog.Holds device :=
    fun joined empty => given joined (String.isEmpty_iff.2 empty)
  have served (request : Request) (single : request.isPage = false)
      (other : request.looksForEmptyId = false)
      (meant : Conclusive (catalog.serve layout clock request).1) :
      Conclusive ((request.action layout).run.evaluate space clock).1 := by
    rw [mirrors.outcome_serve clock request (by simp [other]) (by simp [single])]
    exact meant
  cases request with
  | create device => exact served (.create device) rfl rfl (Catalog.conclusive_create device)
  | update device => exact served (.update device) rfl rfl (Catalog.conclusive_update device)
  | deviceById id => exact (mirrors.locates_byId (apart id clear) clock).1.conclusive
  | deleteById id => exact (mirrors.locates_byId (apart id clear) clock).2.conclusive
  | deviceByName name => exact (mirrors.locates_byName name clock).1.conclusive
  | deleteByName name => exact (mirrors.locates_byName name clock).2.conclusive
  | allDevices offset limit => exact mirrors.conclusive_page mirrors.ids offset limit clock
  | devicesByService offset limit service =>
      exact mirrors.conclusive_page (mirrors.groups (.service service)) offset limit clock
  | devicesByProfile offset limit profile =>
      exact mirrors.conclusive_page (mirrors.groups (.profile profile)) offset limit clock
  | devicesByLabels offset limit labels =>
      exact mirrors.conclusive_devicesByLabels offset limit labels clock
  | existsId | existsName | count | countByService | countByProfile =>
      exact served _ rfl rfl (conclusive_ok _)

/-- Once a device is stored, the search for the empty id fails without a separator, with a failure of
the substrate. -/
theorem evaluate_looksForEmptyId (mirrors : Mirrors layout space catalog)
    (joined : layout.separator = "") {device : Device} (held : catalog.Holds device)
    (clock : source) {request : Request} (empty : request.looksForEmptyId = true) :
    ∃ error, ((request.action layout).run.evaluate space clock).1 = .error error ∧
      error.kind = .databaseError := by
  obtain ⟨set, present, _⟩ :=
    mirrors.ids.exists_set ⟨device, held, trivial, rfl, rfl⟩
  have failed := evaluate_deviceById_of_joined joined present clock
  cases request with
  | deviceById id =>
      obtain rfl := String.isEmpty_iff.1 empty
      exact ⟨_, congrArg Prod.fst failed, rfl⟩
  | deleteById id =>
      obtain rfl := String.isEmpty_iff.1 empty
      exact ⟨_, congrArg Prod.fst (evaluate_bind_of_error failed), rfl⟩
  | _ => cases empty

end Mirrors

/-! ## Deployments -/

namespace Deployment

open Mirrors (Locates)

variable {source : Type} [Clock source]

/-- The call is carried out and has a result. -/
def Succeeds (deployment : Deployment source) (index : Nat) (request : Directory.Request) : Prop :=
  ∃ answer, deployment.outcome index request = some (.ok answer)

/-- The call is carried out and ends in a failure of this kind. -/
def Fails (deployment : Deployment source) (index : Nat) (kind : ErrorKind)
    (request : Directory.Request) : Prop :=
  ∃ error, deployment.outcome index request = some (.error error) ∧ error.kind = kind

variable {layout : Layout} {deployment : Deployment source} {registry : Registry source}
variable {index : Nat}

/-- A call at a station that is there results in what its evaluation results in. -/
theorem Follows.exists_outcome (follows : deployment.Follows layout registry)
    (present : index < registry.clocks.length) :
    ∃ clock : source, ∀ request, deployment.outcome index request =
      some ((request.action layout).run.evaluate deployment.link.memory.space clock).1 := by
  have known := follows.getElem?_clocks index
  rw [List.getElem?_eq_getElem present] at known
  obtain ⟨station, stationed, _⟩ := Option.map_eq_some_iff.1 known.symm
  have own := follows.shared station (List.mem_of_getElem? stationed)
  refine ⟨station.clock, fun request => ?_⟩
  rw [outcome_of_quiet follows.quiet, stationed, ← own]
  rfl

theorem succeeds_iff {request : Directory.Request} {outcome : Except Error request.Answer}
    (resulted : deployment.outcome index request = some outcome) :
    deployment.Succeeds index request ↔ ∃ answer, outcome = .ok answer := by
  simp only [Succeeds, resulted, Option.some.injEq]

theorem fails_iff {request : Directory.Request} {outcome : Except Error request.Answer}
    (resulted : deployment.outcome index request = some outcome) {kind : ErrorKind} :
    deployment.Fails index kind request ↔
      ∃ error, outcome = .error error ∧ error.kind = kind := by
  simp only [Fails, resulted, Option.some.injEq]

theorem succeeds_or_fails {request : Directory.Request} {outcome : Except Error request.Answer}
    (resulted : deployment.outcome index request = some outcome) :
    deployment.Succeeds index request ∨ ∃ kind, deployment.Fails index kind request := by
  cases outcome with
  | ok answer => exact .inl ⟨answer, resulted⟩
  | error error => exact .inr ⟨error.kind, error, resulted, rfl⟩

theorem locates_outcome {request : Directory.Request} {outcome : Except Error request.Answer}
    (resulted : deployment.outcome index request = some outcome) {known : Bool}
    (locates : Locates outcome known) :
    (deployment.Succeeds index request ↔ known = true) ∧
      (deployment.Fails index .notFound request ↔ known = false) := by
  rw [succeeds_iff resulted, fails_iff resulted]
  exact ⟨locates.succeeds, locates.fails⟩

/-- After any calls over a substrate that does not fail, a call at a station succeeds or fails, and never
because a record is damaged. It fails as the substrate would only in one case: there is no separator, a
device is stored, and the call looks for the empty id. In all other cases a look-up by id, or a removal by
id, succeeds when the id is known to exist and is not found when it is known not to. By name there is no
exception. -/
theorem absence_afterCalls (layout : Layout) (clocks : List source)
    (calls : List (Nat × Directory.Request)) {index : Nat} (present : index < clocks.length) :
    let deployment := (startShared layout clocks).afterCalls calls
    let stocked := ∃ id, deployment.outcome index (.existsId id) = some (.ok true)
    (∀ request,
      (deployment.Succeeds index request ∨ ∃ kind, deployment.Fails index kind request) ∧
      ¬ deployment.Fails index .contractInvalid request ∧
      (deployment.Fails index .databaseError request ↔
        layout.separator = "" ∧ stocked ∧ request.looksForEmptyId = true)) ∧
    (∀ id, ∃ known, deployment.outcome index (.existsId id) = some (.ok known) ∧
      ∀ request ∈ [Directory.Request.deviceById id, .deleteById id],
        (deployment.Succeeds index request ↔ known = true) ∧
        (deployment.Fails index .notFound request ↔
          known = false ∧ ¬ (layout.separator = "" ∧ stocked ∧ id = ""))) ∧
    ∀ name, ∃ known, deployment.outcome index (.existsName name) = some (.ok known) ∧
      ∀ request ∈ [Directory.Request.deviceByName name, .deleteByName name],
        (deployment.Succeeds index request ↔ known = true) ∧
        (deployment.Fails index .notFound request ↔ known = false) := by
  intro deployment stocked
  have follows := (follows_startShared layout clocks).afterCalls calls
  have mirrors := follows.mirrors
  obtain ⟨clock, outcome⟩ := follows.exists_outcome
    (by rw [Registry.length_clocks_afterCalls]; exact present)
  generalize ((Registry.mk ∅ clocks).afterCalls layout calls).catalog = catalog at mirrors
  have known (id : String) :
      deployment.outcome index (.existsId id) = some (.ok (decide (id ∈ catalog))) :=
    (outcome _).trans (congrArg some (congrArg Prod.fst (mirrors.evaluate_existsId id clock)))
  have borne (name : String) : deployment.outcome index (.existsName name) =
      some (.ok (catalog.bearer? name).isSome) :=
    (outcome _).trans (congrArg some (congrArg Prod.fst (mirrors.evaluate_existsName name clock)))
  have stocked_iff : stocked ↔ ∃ device, catalog.Holds device := by
    simp only [stocked, known, Option.some.injEq, Except.ok.injEq, decide_eq_true_iff]
    exact mirrors.valid.exists_mem_iff
  refine ⟨fun request => ⟨succeeds_or_fails (outcome request), ?calls⟩,
    fun id => ⟨_, known id, ?ids⟩, fun name => ⟨_, borne name, ?names⟩⟩
  case calls =>
    rw [fails_iff (outcome request), fails_iff (outcome request)]
    by_cases mistaken : layout.separator = "" ∧ stocked ∧ request.looksForEmptyId = true
    · obtain ⟨device, held⟩ := stocked_iff.1 mistaken.2.1
      obtain ⟨error, failed, kind⟩ :=
        mirrors.evaluate_looksForEmptyId mistaken.1 held clock mistaken.2.2
      rw [failed]
      refine ⟨?_, iff_of_true ⟨error, rfl, kind⟩ mistaken⟩
      rintro ⟨_, ⟨⟩, damaged⟩
      cases kind.symm.trans damaged
    · have verdict : Conclusive
          ((request.action layout).run.evaluate deployment.link.memory.space clock).1 :=
        mirrors.conclusive_evaluate clock fun joined empty device held =>
          mistaken ⟨joined, stocked_iff.2 ⟨device, held⟩, empty⟩
      exact ⟨fun ⟨error, failed, damaged⟩ => (verdict error failed).2 damaged,
        iff_of_false (fun ⟨error, failed, broken⟩ => (verdict error failed).1 broken) mistaken⟩
  case ids =>
    by_cases mistaken : layout.separator = "" ∧ stocked ∧ id = ""
    · obtain ⟨joined, someone, rfl⟩ := mistaken
      obtain ⟨device, held⟩ := stocked_iff.1 someone
      have unknown : ¬ "" ∈ catalog := mirrors.valid.not_mem_empty
      have looks : ∀ request ∈ [Directory.Request.deviceById "", .deleteById ""],
          request.looksForEmptyId = true := by simp [Directory.Request.looksForEmptyId]
      intro request listed
      obtain ⟨error, failed, kind⟩ :=
        mirrors.evaluate_looksForEmptyId joined held clock (looks request listed)
      rw [succeeds_iff (outcome request), fails_iff (outcome request), failed]
      simp [kind, unknown, joined, someone]
    · have located := mirrors.locates_byId (fun joined empty device held =>
        mistaken ⟨joined, stocked_iff.2 ⟨device, held⟩, empty⟩) clock
      simp only [List.forall_mem_cons, mistaken, not_false_iff, and_true]
      exact ⟨locates_outcome (outcome (.deviceById id)) located.1,
        locates_outcome (outcome (.deleteById id)) located.2, by simp⟩
  case names =>
    have located := mirrors.locates_byName name clock
    simp only [List.forall_mem_cons]
    exact ⟨locates_outcome (outcome (.deviceByName name)) located.1,
      locates_outcome (outcome (.deleteByName name)) located.2, by simp⟩

/-- Nothing separates the parts of a key and a device is stored. The empty id is known not to exist, but
a search for it does not say so: it fails as if the substrate had. -/
theorem absence_afterCalls_joined :
    let clocks := [(⟨5, 1⟩ : ManualClock)]
    let deployment :=
      (startShared ⟨"c", ""⟩ clocks).afterCalls [(0, .create (.plain "a" "b" "s" "p"))]
    0 < clocks.length ∧
      deployment.outcome 0 (.existsId "") = some (.ok false) ∧
      deployment.Fails 0 .databaseError (.deviceById "") ∧
      ¬ deployment.Fails 0 .notFound (.deviceById "") ∧
      deployment.Fails 0 .databaseError (.deleteById "") := by
  intro clocks deployment
  have present : 0 < clocks.length := by decide
  obtain ⟨calls, ids, _⟩ :=
    absence_afterCalls ⟨"c", ""⟩ clocks [(0, .create (.plain "a" "b" "s" "p"))] present
  have follows := (follows_startShared ⟨"c", ""⟩ clocks).afterCalls
    [(0, .create (.plain "a" "b" "s" "p"))]
  have stocked : deployment.outcome 0 (.existsId "a") = some (.ok true) := by
    rw [follows.outcome_eq 0 (.existsId "a") nofun nofun]
    rfl
  have unknown : deployment.outcome 0 (.existsId "") = some (.ok false) := by
    rw [follows.outcome_eq 0 (.existsId "") nofun nofun]
    rfl
  obtain ⟨known, asked, searches⟩ := ids ""
  obtain rfl : known = false := by
    rw [unknown] at asked
    simpa using asked.symm
  refine ⟨present, unknown, (calls _).2.2.2 ⟨rfl, ⟨"a", stocked⟩, rfl⟩, ?_,
    (calls _).2.2.2 ⟨rfl, ⟨"a", stocked⟩, rfl⟩⟩
  rw [(searches (.deviceById "") List.mem_cons_self).2]
  exact fun missing => missing.2 ⟨rfl, ⟨"a", stocked⟩, rfl⟩

end Deployment

end DeviceCatalog
