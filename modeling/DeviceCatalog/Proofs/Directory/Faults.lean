import DeviceCatalog.Proofs.Directory.Discipline
import DeviceCatalog.Proofs.Substrate.Transcript

/-!
# Calls that meet a failure

Whatever fails during a call of the directory, at whatever point and on whatever key space: the call
makes no further call of the substrate, reports a database failure with what failed as its cause, and
leaves every key as it was. A write that succeeds has handed over one batch, as the last thing it did,
and a write that fails has either handed over none or seen its batch fail.
-/

namespace DeviceCatalog.Directory

namespace Action

variable {result : Type}

/-- What the run of a disciplined action comes to on a key space: queries that are answered, and then
either nothing more, a call that fails, or a batch that takes effect. -/
inductive Course (space : KeySpace) : List Exchange → Except Error result → KeySpace → Prop
  | settled (outcome : Except Error result) : Course space [] outcome space
  | broken (call : Call) (description : String) (failure : StorageError) :
      Course space [⟨call, some failure⟩] (.error (fault description failure)) space
  | committed (batch : Batch) (value : result) :
      Course space [⟨.exec batch, none⟩] (.ok value) (space.applyAll batch)
  | answered (query : Query) {later : List Exchange} {outcome : Except Error result}
      {after : KeySpace} (rest : Course space later outcome after) :
      Course space (⟨.ask query, none⟩ :: later) outcome after

namespace Course

variable {space after : KeySpace} {made earlier later : List Exchange} {exchange : Exchange}
variable {outcome : Except Error result} {failure : StorageError}

/-- After a call that fails nothing else is called, and the outcome is that failure. -/
theorem of_failure (course : Course space (earlier ++ exchange :: later) outcome after)
    (failed : exchange.failure = some failure) :
    later = [] ∧ (∃ description, outcome = .error (fault description failure)) ∧
      after = space := by
  generalize whole : earlier ++ exchange :: later = made at course
  induction course generalizing earlier with
  | settled outcome => simp at whole
  | broken call description raised =>
      obtain ⟨rfl, rfl, rfl⟩ := by simpa [List.append_eq_singleton_iff] using whole
      cases failed
      exact ⟨rfl, ⟨description, rfl⟩, rfl⟩
  | committed batch value =>
      obtain ⟨rfl, rfl, rfl⟩ := by simpa [List.append_eq_singleton_iff] using whole
      cases failed
  | answered query rest ih =>
      cases earlier with
      | nil =>
          cases whole
          cases failed
      | cons first others => exact ih (List.cons.inj whole).2

/-- A batch is handed over as the last call, if at all. When it fails the outcome is its failure, and
when it takes effect the outcome is a value. -/
theorem queries_or_batch (course : Course space made outcome after) :
    (∀ exchange ∈ made, exchange.Asks) ∨
      ∃ reads batch failure?, made = reads ++ [⟨.exec batch, failure?⟩] ∧
        (∀ exchange ∈ reads, exchange.Asks) ∧
        ((failure? = none ∧ ∃ value, outcome = .ok value) ∨
          ∃ failure description, failure? = some failure ∧
            outcome = .error (fault description failure)) := by
  induction course with
  | settled outcome => exact .inl (by simp)
  | broken call description failure =>
      cases call with
      | ask query => exact .inl (by simp [Exchange.Asks])
      | exec batch =>
          exact .inr ⟨[], batch, some failure, rfl, by simp, .inr ⟨failure, description, rfl, rfl⟩⟩
  | committed batch value =>
      exact .inr ⟨[], batch, none, rfl, by simp, .inl ⟨rfl, value, rfl⟩⟩
  | answered query rest ih =>
      have asked : (Exchange.mk (.ask query) none).Asks := ⟨query, rfl⟩
      rcases ih with reads | ⟨reads, batch, failure?, rfl, asks, ended⟩
      · exact .inl (by simpa [asked] using reads)
      · exact .inr ⟨_ :: reads, batch, failure?, rfl, by simpa [asked] using asks, ended⟩

/-- Without a result there is no change. -/
theorem space_of_error {failure : Error}
    (course : Course space made (.error failure : Except Error result) after) : after = space := by
  generalize told : (.error failure : Except Error result) = outcome at course
  induction course with
  | settled outcome => rfl
  | broken call description failure => rfl
  | committed batch value => cases told
  | answered query rest ih => exact ih told

end Course

variable {source : Type} [Clock source] {script : Script (Except Error result)}

theorem Disciplined.course (disciplined : Disciplined script) (link : Link) (clock : source) :
    Course link.memory.space (script.transcript link clock) (script.run link clock).1
      (script.run link clock).2.1.memory.space := by
  induction disciplined generalizing link clock with
  | done outcome => exact .settled outcome
  | @ask query answered description fails _ ih =>
      rw [Script.transcript, Script.run]
      obtain ⟨failure, after, asked, kept⟩ | ⟨answer, after, asked, kept, _⟩ :=
        link.ask_cases query
      · simp only [asked, fails]
        rw [← kept]
        exact .broken _ description failure
      · rw [asked, ← kept]
        exact .answered query (ih answer after clock)
  | @exec batch answered description value fails ends =>
      rw [Script.transcript, Script.run]
      obtain ⟨failure, after, ran, kept⟩ | ⟨_, after, ran, _, applied⟩ := link.exec_cases batch
      · simp only [ran, fails, Script.transcript, Script.run]
        rw [kept]
        exact .broken _ description failure
      · simp only [ran, ends, Script.transcript, Script.run]
        rw [applied]
        exact .committed batch value
  | @readClock told _ ih => exact ih (Clock.read clock).1 link (Clock.read clock).2

/-- A write that results in a value has handed over a batch. -/
theorem Committing.exists_exec (committing : Committing script) {link : Link} {clock : source}
    {value : result} (succeeded : (script.run link clock).1 = .ok value) :
    ∃ exchange ∈ script.transcript link clock, ¬ exchange.Asks := by
  induction committing generalizing link clock with
  | done failure => cases succeeded
  | @ask query answered description fails _ ih =>
      rw [Script.transcript]
      rw [Script.run] at succeeded
      obtain ⟨failure, after, asked, _⟩ | ⟨answer, after, asked, _⟩ := link.ask_cases query
      · simp only [asked, fails] at succeeded
        cases succeeded
      · rw [asked] at succeeded ⊢
        obtain ⟨exchange, listed, executed⟩ := ih answer succeeded
        exact ⟨exchange, List.mem_cons_of_mem _ listed, executed⟩
  | @exec batch answered description value fails ends =>
      rw [Script.transcript]
      refine ⟨_, List.mem_cons_self, ?_⟩
      simp [Exchange.Asks]
  | @readClock told _ ih => exact ih (Clock.read clock).1 succeeded

end Action

namespace Request

variable {source : Type} [Clock source]

/-- A call of the directory over any link, with whatever failures the link and the substrate have in
store and whatever the keys hold. A call of the substrate that fails is the last one; the directory
reports a database failure with it as the cause, and no key has changed. A write that succeeds has
handed over one batch, as its last call. A write that fails has changed no key, and unless its batch
was what failed it has handed over none. -/
theorem run_with_failures (layout : Layout) (request : Request) (link : Link) (clock : source) :
    let ran := (request.action layout).run.run link clock
    let made := (request.action layout).run.transcript link clock
    ran.2.1.calls = (made.map Exchange.call).reverse ++ link.calls ∧
    (∀ earlier exchange later failure, made = earlier ++ exchange :: later →
      exchange.failure = some failure →
      later = [] ∧ (∃ description, ran.1 = .error (.database description (.storage failure))) ∧
        ran.2.1.memory.space = link.memory.space) ∧
    (request.isQuery = false →
      (∀ value, ran.1 = .ok value → ∃ reads batch, made = reads ++ [⟨.exec batch, none⟩] ∧
        ∀ exchange ∈ reads, exchange.Asks) ∧
      ∀ error, ran.1 = .error error → ran.2.1.memory.space = link.memory.space ∧
        ((∀ exchange ∈ made, exchange.Asks) ∨
          ∃ reads batch failure description, made = reads ++ [⟨.exec batch, some failure⟩] ∧
            (∀ exchange ∈ reads, exchange.Asks) ∧
            error = .database description (.storage failure))) := by
  intro ran made
  have course := (disciplined_action layout request).course link clock
  refine ⟨Script.calls_run _ link clock, ?failing, fun write => ⟨fun value => ?ok, fun error => ?error⟩⟩
  case failing =>
    intro earlier exchange later failure split failed
    rw [show Script.transcript _ link clock = _ from split] at course
    exact course.of_failure failed
  case ok =>
    intro succeeded
    obtain ⟨exchange, listed, executed⟩ :=
      (committing_action layout write).exists_exec succeeded
    rcases course.queries_or_batch with reads | ⟨reads, batch, failure?, whole, asks, ended⟩
    · exact absurd (reads exchange listed) executed
    · rcases ended with ⟨rfl, _⟩ | ⟨failure, description, rfl, failed⟩
      · exact ⟨reads, batch, whole, asks⟩
      · cases succeeded.symm.trans failed
  case error =>
    intro failed
    rw [show (Script.run _ link clock).1 = _ from failed] at course
    refine ⟨course.space_of_error, ?_⟩
    rcases course.queries_or_batch with reads | ⟨reads, batch, failure?, whole, asks, ended⟩
    · exact .inl reads
    · rcases ended with ⟨_, value, succeeded⟩ | ⟨failure, description, rfl, same⟩
      · cases succeeded
      · exact .inr ⟨reads, batch, failure, description, whole, asks, Except.error.inj same⟩

/-- The connection breaks at the second call of a write. -/
theorem run_with_failures_standard :
    let link := { Link.empty with breakage := some ⟨1, "down"⟩ }
    let action := ((create (.plain "a" "b" "s" "p")).action .standard).run
    let failed : Exchange := ⟨.ask (.hexists "md|dv:name" "b"), some (.connection "down")⟩
    action.transcript link (⟨5, 1⟩ : ManualClock) =
        [⟨.ask (.zscore "md|dv" "md|dv:a"), none⟩] ++ failed :: [] ∧
      (∃ description, (action.run link (⟨5, 1⟩ : ManualClock)).1 =
        .error (.database description (.storage (.connection "down")))) := by
  intro link action failed
  have made : action.transcript link (⟨5, 1⟩ : ManualClock) =
      [⟨.ask (.zscore "md|dv" "md|dv:a"), none⟩] ++ failed :: [] := by rfl
  have course := run_with_failures .standard (create (.plain "a" "b" "s" "p")) link
    (⟨5, 1⟩ : ManualClock)
  exact ⟨made, (course.2.1 _ failed [] _ made rfl).2.1⟩

end Request

end DeviceCatalog.Directory
