import DeviceCatalog.Proofs.Substrate.Evaluation
import DeviceCatalog.Proofs.Substrate.Locality

/-!
# Scripts that keep to some of the keys

A script that reads and writes only keys of some set does the same on any two key spaces that agree on
these keys, and leaves all other keys alone. Which keys a script reads can depend on what it has read
before, so keeping to a set of keys is said of a script together with the key space that it starts on.
-/

namespace DeviceCatalog

/-- The keys that a query looks at. -/
def Query.keys : Query → List String
  | .get key | .zscore key _ | .zcard key | .zrange key _ _ | .zrevrange key _ _ | .hget key _
  | .hexists key _ => [key]
  | .mget keys => keys

namespace KeySpace

variable {left right : KeySpace}

theorem string?_congr {key : String} (agree : left[key]? = right[key]?) :
    left.string? key = right.string? key := by
  rw [string?, string?, agree]

theorem sortedSet_congr {key : String} (agree : left[key]? = right[key]?) :
    left.sortedSet key = right.sortedSet key := by
  rw [sortedSet, sortedSet, agree]

theorem hash_congr {key : String} (agree : left[key]? = right[key]?) :
    left.hash key = right.hash key := by
  rw [hash, hash, agree]

theorem bytes?_congr {key : String} (agree : left[key]? = right[key]?) :
    left.bytes? key = right.bytes? key := by
  rw [bytes?, bytes?, agree]

/-- The answer to a query depends on the keys alone that it looks at. -/
theorem answer_congr {query : Query} (agree : ∀ key ∈ query.keys, left[key]? = right[key]?) :
    left.answer query = right.answer query := by
  cases query with
  | get key => exact string?_congr (agree key (by simp [Query.keys]))
  | mget keys =>
      exact congrArg Except.ok (List.map_congr_left fun key listed => bytes?_congr (agree key listed))
  | zscore key _ | zcard key | zrange key _ _ | zrevrange key _ _ =>
      exact congrArg (Except.map _) (sortedSet_congr (agree key (by simp [Query.keys])))
  | hget key _ | hexists key _ =>
      exact congrArg (Except.map _) (hash_congr (agree key (by simp [Query.keys])))

/-- Applying a batch gives the same under a key where the values before are the same. -/
theorem getElem?_applyAll_congr {key : String} (agree : left[key]? = right[key]?) (batch : Batch) :
    (left.applyAll batch)[key]? = (right.applyAll batch)[key]? := by
  rw [getElem?_applyAll, getElem?_applyAll, agree]

end KeySpace

/-- The check of a batch depends on the keys alone that its commands name. -/
theorem Admission.check_congr {left right : KeySpace} {batch : Batch}
    (agree : ∀ command ∈ batch, left[command.key]? = right[command.key]?) :
    check left batch = check right batch := by
  rw [check, check]
  generalize (∅ : Pending) = pending
  induction batch generalizing pending with
  | nil => rfl
  | cons command rest ih =>
      have same : step left pending command = step right pending command := by
        rw [step, step, projectionOf, projectionOf, agree command (by simp)]
      rw [List.foldlM_cons, List.foldlM_cons, same]
      refine congrArg _ (funext fun after => ?_)
      exact ih (fun other listed => agree other (by simp [listed])) after

namespace Script

variable {result other source : Type} [Clock source]

/-- Against this key space the script asks for no keys and changes no keys but those given. -/
def Confined (owned : String → Prop) : Script result → KeySpace → source → Prop
  | done _, _, _ => True
  | ask query next, space, clock =>
      (∀ key ∈ query.keys, owned key) ∧ (next (space.answer query)).Confined owned space clock
  | exec batch next, space, clock =>
      (∀ command ∈ batch, owned command.key) ∧
        (∀ refusal, Admission.check space batch = .error refusal →
          (next (.error refusal)).Confined owned space clock) ∧
        ∀ pending, Admission.check space batch = .ok pending →
          (next (.ok ())).Confined owned (space.applyAll batch) clock
  | readClock next, space, clock =>
      match Clock.read clock with
      | (time, later) => (next time).Confined owned space later

variable {owned : String → Prop} {script : Script result} {space shared : KeySpace} {clock : source}

theorem confined_bind {next : result → Script other} (first : script.Confined owned space clock)
    (second : ∀ value after later, script.evaluate space clock = (value, after, later) →
      (next value).Confined owned after later) :
    (script.bind next).Confined owned space clock := by
  induction script generalizing space clock with
  | done value => exact second value space clock rfl
  | ask query answered ih => exact ⟨first.1, ih _ first.2 second⟩
  | exec batch answered ih =>
      rw [evaluate] at second
      refine ⟨first.1, fun refusal refused => ?_, fun pending admitted => ?_⟩
      · simp only [refused] at second
        exact ih _ (first.2.1 refusal refused) second
      · simp only [admitted] at second
        exact ih _ (first.2.2 pending admitted) second
  | readClock told ih => exact ih _ first second

/-- What a script does on a shared key space and what it does on one of its own: the results are the
same, the clocks are the same, and so are the keys given; the other shared keys are as they were. -/
structure Agrees (owned : String → Prop) (shared : KeySpace)
    (joint own : result × KeySpace × source) : Prop where
  outcome : joint.1 = own.1
  clock : joint.2.2 = own.2.2
  inside : ∀ key : String, owned key → joint.2.1[key]? = own.2.1[key]?
  outside : ∀ key : String, ¬ owned key → joint.2.1[key]? = shared[key]?

/-- A script that keeps to some keys does the same wherever these keys hold the same. -/
theorem Confined.agrees (confined : script.Confined owned space clock)
    (agree : ∀ key : String, owned key → shared[key]? = space[key]?) :
    Agrees owned shared (script.evaluate shared clock) (script.evaluate space clock) := by
  induction script generalizing space shared clock with
  | done value => exact ⟨rfl, rfl, agree, fun _ _ => rfl⟩
  | ask query next ih =>
      have same : shared.answer query = space.answer query :=
        KeySpace.answer_congr fun key asked => agree key (confined.1 key asked)
      rw [evaluate, evaluate, same]
      exact ih _ confined.2 agree
  | exec batch next ih =>
      have same : Admission.check shared batch = Admission.check space batch :=
        Admission.check_congr fun command queued => agree _ (confined.1 command queued)
      rw [evaluate, evaluate, same]
      split
      next refusal refused => exact ih _ (confined.2.1 refusal refused) agree
      next pending admitted =>
        have applied := ih _ (confined.2.2 pending admitted) fun key mine =>
          KeySpace.getElem?_applyAll_congr (agree key mine) batch
        refine ⟨applied.outcome, applied.clock, applied.inside, fun key foreign => ?_⟩
        rw [applied.outside key foreign, KeySpace.getElem?_applyAll,
          Batch.effectAt_of_forall_ne]
        rintro command queued rfl
        exact foreign (confined.1 command queued)
  | readClock next ih => exact ih _ confined agree

end Script

end DeviceCatalog
