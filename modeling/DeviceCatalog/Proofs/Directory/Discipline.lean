import DeviceCatalog.Directory.Request
import DeviceCatalog.Proofs.Substrate.Evaluation

/-!
# How actions call the substrate

Every action of the directory gives up at the first call that fails, and a write hands over one batch
as its last call. So an action has nothing to undo: whatever fails on the way, it leaves the key
space either as it found it or as it would have left it without any failure.
-/

namespace DeviceCatalog.Directory

namespace Action

variable {result next : Type}

/-- The action asks and never writes; a call that fails ends it with the failure of that call. -/
inductive Reading : Script (Except Error result) → Prop
  | done (outcome : Except Error result) : Reading (.done outcome)
  | ask {query : Query} {answered : Except StorageError query.Answer → Script (Except Error result)}
      (description : String)
      (fails : ∀ failure,
        answered (.error failure) = .done (.error (fault description failure)))
      (proceeds : ∀ answer, Reading (answered (.ok answer))) : Reading (.ask query answered)

/-- The action may also read the clock, and hand over a batch as its last call. -/
inductive Disciplined : Script (Except Error result) → Prop
  | done (outcome : Except Error result) : Disciplined (.done outcome)
  | ask {query : Query} {answered : Except StorageError query.Answer → Script (Except Error result)}
      (description : String)
      (fails : ∀ failure,
        answered (.error failure) = .done (.error (fault description failure)))
      (proceeds : ∀ answer, Disciplined (answered (.ok answer))) :
      Disciplined (.ask query answered)
  | exec {batch : Batch} {answered : Except StorageError Unit → Script (Except Error result)}
      (description : String) (value : result)
      (fails : ∀ failure,
        answered (.error failure) = .done (.error (fault description failure)))
      (ends : answered (.ok ()) = .done (.ok value)) : Disciplined (.exec batch answered)
  | readClock {told : Int64 → Script (Except Error result)}
      (proceeds : ∀ time, Disciplined (told time)) : Disciplined (.readClock told)

/-- The action ends well only by handing over a batch, as its last call; before that it may ask and
read the clock. -/
inductive Committing : Script (Except Error result) → Prop
  | done (failure : Error) : Committing (.done (.error failure))
  | ask {query : Query} {answered : Except StorageError query.Answer → Script (Except Error result)}
      (description : String)
      (fails : ∀ failure,
        answered (.error failure) = .done (.error (fault description failure)))
      (proceeds : ∀ answer, Committing (answered (.ok answer))) : Committing (.ask query answered)
  | exec {batch : Batch} {answered : Except StorageError Unit → Script (Except Error result)}
      (description : String) (value : result)
      (fails : ∀ failure,
        answered (.error failure) = .done (.error (fault description failure)))
      (ends : answered (.ok ()) = .done (.ok value)) : Committing (.exec batch answered)
  | readClock {told : Int64 → Script (Except Error result)}
      (proceeds : ∀ time, Committing (told time)) : Committing (.readClock told)

/-! ## Composing actions -/

theorem Reading.pure (value : result) : Reading (Pure.pure value : Action result).run :=
  .done (.ok value)

theorem Reading.throw (failure : Error) :
    Reading (MonadExcept.throw failure : Action result).run := .done (.error failure)

theorem Reading.ofExcept (outcome : Except Error result) : Reading (Action.ofExcept outcome).run :=
  .done outcome

theorem Reading.query (description : String) (query : Query) :
    Reading (Action.ask description query).run :=
  .ask description (fun _ => rfl) fun answer => .done (.ok answer)

/-- What a failure has, and a question has as soon as all scripts after its answers have it, an action
has that only asks and then goes on to actions that have it. -/
theorem Reading.bind_of {target : Script (Except Error next) → Prop}
    (throws : ∀ failure, target (.done (.error failure)))
    (asks : ∀ {query : Query} {answered : Except StorageError query.Answer → _} (description : String),
      (∀ failure, answered (.error failure) = .done (.error (fault description failure))) →
      (∀ answer, target (answered (.ok answer))) → target (.ask query answered))
    {action : Action result} {continuation : result → Action next} (reading : Reading action.run)
    (proceeds : ∀ value, target (continuation value).run) :
    target (action >>= continuation).run := by
  rw [ExceptT.run_bind]
  generalize action.run = script at reading
  induction reading with
  | done outcome =>
      cases outcome with
      | error failure => exact throws failure
      | ok value => exact proceeds value
  | ask description fails _ ih =>
      refine asks description (fun failure => ?_) ih
      simp only [fails]
      rfl

theorem Reading.bind {action : Action result} {continuation : result → Action next}
    (reading : Reading action.run) (proceeds : ∀ value, Reading (continuation value).run) :
    Reading (action >>= continuation).run :=
  bind_of (fun failure => .done (.error failure)) .ask reading proceeds

theorem Reading.bind_committing {action : Action result} {continuation : result → Action next}
    (reading : Reading action.run) (proceeds : ∀ value, Committing (continuation value).run) :
    Committing (action >>= continuation).run :=
  bind_of .done .ask reading proceeds

theorem Reading.disciplined {script : Script (Except Error result)} (reading : Reading script) :
    Disciplined script := by
  induction reading with
  | done outcome => exact .done outcome
  | ask description fails _ ih => exact .ask description fails ih

theorem Committing.disciplined {script : Script (Except Error result)}
    (committing : Committing script) : Disciplined script := by
  induction committing with
  | done failure => exact .done (.error failure)
  | ask description fails _ ih => exact .ask description fails ih
  | exec description value fails ends => exact .exec description value fails ends
  | readClock _ ih => exact .readClock ih

theorem Committing.throw (failure : Error) :
    Committing (MonadExcept.throw failure : Action result).run := .done failure

theorem Committing.clock {continuation : Int64 → Action next}
    (proceeds : ∀ time, Committing (continuation time).run) :
    Committing (Action.readClock >>= continuation).run := .readClock proceeds

theorem Committing.commit (description : String) (batch : Batch) :
    Committing (Action.commit description batch).run :=
  .exec description () (fun _ => rfl) rfl

theorem Committing.commit_pure (description : String) (batch : Batch) (value : result) :
    Committing (Action.commit description batch >>= fun _ => Pure.pure value).run :=
  .exec description value (fun _ => rfl) rfl

end Action

/-! ## The actions -/

open DeviceCatalog.Directory.Action

variable (layout : Layout)

theorem reading_existsId (id : String) : Reading (existsId layout id).run :=
  (Reading.query _ _).bind fun score => .pure score.isSome

theorem reading_existsName (name : String) : Reading (existsName layout name).run := .query _ _

theorem reading_deviceAt? (key : String) : Reading (deviceAt? key).run := by
  refine (Reading.query _ _).bind fun stored => ?_
  cases stored with
  | none => exact .pure none
  | some bytes => exact .ofExcept _

theorem reading_deviceById (id : String) : Reading (deviceById layout id).run := by
  rw [deviceById]
  split
  next => exact .throw _
  next =>
    refine (reading_deviceAt? _).bind fun found => ?_
    cases found with
    | none => exact .throw _
    | some device => exact .pure device

theorem reading_deviceByName (name : String) : Reading (deviceByName layout name).run := by
  refine (Reading.query _ _).bind fun key => ?_
  cases key with
  | none => exact .throw _
  | some key =>
      refine (reading_deviceAt? key).bind fun found => ?_
      cases found with
      | none => exact .throw _
      | some device => exact .pure device

theorem reading_fetch (keys : List String) : Reading (fetch keys).run := by
  rw [fetch]
  split
  next => exact .pure []
  next => exact (Reading.query _ _).bind fun _ => .ofExcept _

theorem reading_page (key : String) (offset : UInt64) (limit : Int64) :
    Reading (page key offset limit).run := by
  refine (Reading.ofExcept _).bind fun window => ?_
  cases window with
  | none => exact .pure []
  | some window => exact (Reading.query _ _).bind reading_fetch

theorem reading_keepLabelled (labels keys : List String) :
    Reading (keepLabelled layout keys labels).run := by
  induction labels generalizing keys with
  | nil => exact .pure keys
  | cons label rest ih =>
      rw [keepLabelled]
      split
      next => exact .pure keys
      next => exact (Reading.query _ _).bind fun _ => ih _

theorem reading_devicesByLabels (offset : UInt64) (limit : Int64) (labels : List String) :
    Reading (devicesByLabels layout offset limit labels).run := by
  rw [devicesByLabels]
  split
  next => exact reading_page _ _ _
  next => exact reading_page _ _ _
  next first rest _ _ =>
    refine (Reading.ofExcept _).bind fun window => ?_
    cases window with
    | none => exact .pure []
    | some window =>
        exact (Reading.query _ _).bind fun keys =>
          (reading_keepLabelled layout rest keys).bind fun _ => reading_fetch _

theorem committing_create (device : Device) : Committing (create layout device).run := by
  refine (Reading.ofExcept _).bind_committing fun _ => ?_
  refine (reading_existsId layout _).bind_committing fun taken => ?_
  cases taken with
  | true => exact .throw _
  | false =>
      refine (reading_existsName layout _).bind_committing fun borne => ?_
      cases borne with
      | true => exact .throw _
      | false => exact .clock fun time => .commit_pure _ _ _

theorem committing_update (device : Device) : Committing (update layout device).run := by
  refine (Reading.ofExcept _).bind_committing fun _ => ?_
  refine (reading_deviceById layout _).bind_committing fun old => ?_
  by_cases renamed : old.name ≠ device.name
  · rw [if_pos renamed]
    refine (reading_existsName layout _).bind_committing fun borne => ?_
    cases borne with
    | true => exact .throw _
    | false => exact .clock fun time => .commit_pure _ _ _
  · rw [if_neg renamed]
    exact .clock fun time => .commit_pure _ _ _

theorem committing_deleteById (id : String) : Committing (deleteById layout id).run :=
  (reading_deviceById layout id).bind_committing fun _ => .commit _ _

theorem committing_deleteByName (name : String) : Committing (deleteByName layout name).run :=
  (reading_deviceByName layout name).bind_committing fun _ => .commit _ _

namespace Request

/-- A call that only reads. -/
def isQuery : Request → Bool
  | create _ | update _ | deleteById _ | deleteByName _ => false
  | _ => true

theorem reading_action {request : Request} (query : request.isQuery = true) :
    Reading (request.action layout).run := by
  cases request with
  | create device => cases query
  | update device => cases query
  | deleteById id => cases query
  | deleteByName name => cases query
  | deviceById id => exact reading_deviceById layout id
  | deviceByName name => exact reading_deviceByName layout name
  | existsId id => exact reading_existsId layout id
  | existsName name => exact reading_existsName layout name
  | allDevices offset limit => exact reading_page _ offset limit
  | devicesByService offset limit service => exact reading_page _ offset limit
  | devicesByProfile offset limit profile => exact reading_page _ offset limit
  | devicesByLabels offset limit labels => exact reading_devicesByLabels layout offset limit labels
  | count => exact .query _ _
  | countByService service => exact .query _ _
  | countByProfile profile => exact .query _ _

theorem committing_action {request : Request} (write : request.isQuery = false) :
    Committing (request.action layout).run := by
  cases request with
  | create device => exact committing_create layout device
  | update device => exact committing_update layout device
  | deleteById id => exact committing_deleteById layout id
  | deleteByName name => exact committing_deleteByName layout name
  | deviceById _ | deviceByName _ | existsId _ | existsName _ | allDevices _ _
  | devicesByService _ _ _ | devicesByProfile _ _ _ | devicesByLabels _ _ _ | count
  | countByService _ | countByProfile _ => cases write

theorem disciplined_action (request : Request) : Disciplined (request.action layout).run := by
  cases kind : request.isQuery with
  | true => exact (reading_action layout kind).disciplined
  | false => exact (committing_action layout kind).disciplined

end Request

/-! ## Runs -/

namespace Action

variable {result source : Type} [Clock source] {script : Script (Except Error result)}

/-- An action that only reads leaves the key space and the clock alone. -/
theorem Reading.evaluate (reading : Reading script) (space : KeySpace) (clock : source) :
    (script.evaluate space clock).2 = (space, clock) := by
  induction reading with
  | done outcome => rfl
  | @ask query answered description fails _ ih =>
      rw [Script.evaluate]
      cases space.answer query with
      | error failure =>
          rw [fails]
          rfl
      | ok answer => exact ih answer

/-- A run meets a failure, and then it ends with an error and leaves the key space as it was; or it does
what its evaluation says. -/
theorem Disciplined.run_cases (disciplined : Disciplined script) (link : Link) (clock : source) :
    (∃ failure, (script.run link clock).1 = .error failure ∧
        (script.run link clock).2.1.memory.space = link.memory.space) ∨
      script.evaluate link.memory.space clock =
        ((script.run link clock).1, (script.run link clock).2.1.memory.space,
          (script.run link clock).2.2) := by
  induction disciplined generalizing link clock with
  | done outcome => exact .inr rfl
  | @ask query answered description fails _ ih =>
      rw [Script.run]
      obtain ⟨failure, after, asked, kept⟩ | ⟨answer, after, asked, kept, correct⟩ :=
        link.ask_cases query
      · simp only [asked, fails]
        exact .inl ⟨_, rfl, congrArg Memory.space kept⟩
      · rw [asked, Script.evaluate, correct, ← kept]
        exact ih answer after clock
  | @exec batch answered description value fails ends =>
      rw [Script.run]
      obtain ⟨failure, after, ran, kept⟩ | ⟨pending, after, ran, admitted, applied⟩ :=
        link.exec_cases batch
      · simp only [ran, fails]
        exact .inl ⟨_, rfl, kept⟩
      · rw [Script.evaluate, admitted, ← applied]
        simp only [ran, ends]
        exact .inr rfl
  | @readClock told _ ih => exact ih (Clock.read clock).1 link (Clock.read clock).2

/-- An action that results in a value has met no failure, and has done what its evaluation says. -/
theorem Disciplined.evaluate_of_run (disciplined : Disciplined script) {link : Link}
    {clock : source} {value : result} (succeeded : (script.run link clock).1 = .ok value) :
    script.evaluate link.memory.space clock =
      (.ok value, (script.run link clock).2.1.memory.space, (script.run link clock).2.2) := by
  rcases disciplined.run_cases link clock with ⟨failure, failed, _⟩ | done
  · cases failed.symm.trans succeeded
  · rw [done, succeeded]

end Action

end DeviceCatalog.Directory
