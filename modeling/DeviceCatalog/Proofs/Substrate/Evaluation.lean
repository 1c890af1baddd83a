import DeviceCatalog.Proofs.Substrate.Sequential
import DeviceCatalog.Substrate.Link

/-!
# What a script does to a key space

A script run over a link does what its calls do, in the face of whatever failures the link and the
substrate have in store. Without failures the run depends on the key space and the clock alone, and
that is how a script is evaluated here.
-/

namespace DeviceCatalog

namespace Memory

variable {memory : Memory}

theorem Ready.ask_eq (ready : memory.Ready) (query : Query) :
    memory.ask query = memory.space.answer query := by
  rw [ask, ready.unavailable, if_neg Bool.false_ne_true]

theorem answer_of_ask {query : Query} {answer : query.Answer}
    (answered : memory.ask query = .ok answer) : memory.space.answer query = .ok answer := by
  rw [ask] at answered
  split at answered
  next => cases answered
  next => exact answered

/-- A batch that succeeds was admitted and has been applied. -/
theorem of_exec_eq_ok {batch : Batch} (ran : (memory.exec batch).1 = .ok ()) :
    ∃ pending, Admission.check memory.space batch = .ok pending ∧
      (memory.exec batch).2.space = memory.space.applyAll batch := by
  rw [exec] at ran ⊢
  split
  next reached => simp [reached] at ran
  next reached =>
    rw [if_neg reached] at ran
    split
    next aborted => simp [aborted] at ran
    next pending =>
      simp only [pending] at ran
      split
      next refused => simp [refused] at ran
      next admission admitted => exact ⟨admission, admitted, rfl⟩

end Memory

namespace Link

/-- Nothing is set up to fail: every call reaches the key space. -/
structure Quiet (link : Link) : Prop where
  unbroken : link.breakage = none
  ready : link.memory.Ready

theorem quiet_empty : empty.Quiet := ⟨rfl, Memory.ready_empty⟩

variable {link : Link}

theorem memory_pass (link : Link) (call : Call) : (link.pass call).2.memory = link.memory := by
  rw [pass]
  split <;> rfl

theorem Quiet.pass (quiet : link.Quiet) (call : Call) :
    link.pass call = (none, { link with calls := call :: link.calls }) := by
  rw [Link.pass, quiet.unbroken]

theorem memory_ask (link : Link) (query : Query) : (link.ask query).2.memory = link.memory := by
  have kept := link.memory_pass (.ask query)
  rw [ask]
  split
  next passed => rwa [passed] at kept
  next passed => rwa [passed] at kept

theorem answer_of_ask {query : Query} {answer : query.Answer}
    (answered : (link.ask query).1 = .ok answer) : link.memory.space.answer query = .ok answer := by
  have kept := link.memory_pass (.ask query)
  rw [ask] at answered
  split at answered
  next => cases answered
  next passed =>
    rw [passed] at kept
    exact kept ▸ Memory.answer_of_ask answered

/-- A batch that fails on its way leaves the key space as it was. -/
theorem space_exec_of_error {batch : Batch} {failure : StorageError}
    (failed : (link.exec batch).1 = .error failure) :
    (link.exec batch).2.memory.space = link.memory.space := by
  have kept := link.memory_pass (.exec batch)
  rw [exec] at failed ⊢
  split
  next passed => exact congrArg Memory.space (by rwa [passed] at kept)
  next after passed =>
    rw [passed] at failed kept
    rw [← show after.memory = link.memory from kept]
    exact Memory.space_exec_of_error failed

/-- A batch that gets through was admitted and has been applied. -/
theorem of_exec_eq_ok {batch : Batch} (ran : (link.exec batch).1 = .ok ()) :
    ∃ pending, Admission.check link.memory.space batch = .ok pending ∧
      (link.exec batch).2.memory.space = link.memory.space.applyAll batch := by
  have kept := link.memory_pass (.exec batch)
  rw [exec] at ran ⊢
  split
  next passed =>
    rw [passed] at ran
    cases ran
  next after passed =>
    rw [passed] at ran kept
    rw [← show after.memory = link.memory from kept]
    exact Memory.of_exec_eq_ok ran

/-- A query fails or is answered from the key space, and changes nothing. -/
theorem ask_cases (link : Link) (query : Query) :
    (∃ failure after, link.ask query = (.error failure, after) ∧ after.memory = link.memory) ∨
      ∃ answer after, link.ask query = (.ok answer, after) ∧ after.memory = link.memory ∧
        link.memory.space.answer query = .ok answer := by
  have kept := link.memory_ask query
  cases asked : link.ask query with
  | mk outcome after =>
      rw [asked] at kept
      cases outcome with
      | error failure => exact .inl ⟨failure, after, rfl, kept⟩
      | ok answer => exact .inr ⟨answer, after, rfl, kept, answer_of_ask (by rw [asked])⟩

/-- A batch fails and changes nothing, or it is admitted and applied. -/
theorem exec_cases (link : Link) (batch : Batch) :
    (∃ failure after, link.exec batch = (.error failure, after) ∧
        after.memory.space = link.memory.space) ∨
      ∃ pending after, link.exec batch = (.ok (), after) ∧
        Admission.check link.memory.space batch = .ok pending ∧
        after.memory.space = link.memory.space.applyAll batch := by
  cases ran : link.exec batch with
  | mk outcome after =>
      cases outcome with
      | error failure =>
          have kept := @space_exec_of_error link batch failure (by rw [ran])
          rw [ran] at kept
          exact .inl ⟨failure, after, rfl, kept⟩
      | ok _ =>
          obtain ⟨pending, admitted, applied⟩ := @of_exec_eq_ok link batch (by rw [ran])
          rw [ran] at applied
          exact .inr ⟨pending, after, rfl, admitted, applied⟩

end Link

namespace Script

variable {result other source : Type} [Clock source]

/-- Runs a script against a key space and a clock alone. -/
def evaluate : Script result → KeySpace → source → result × KeySpace × source
  | done value, space, clock => (value, space, clock)
  | ask query next, space, clock => (next (space.answer query)).evaluate space clock
  | exec batch next, space, clock =>
      match Admission.check space batch with
      | .error refusal => (next (.error refusal)).evaluate space clock
      | .ok _ => (next (.ok ())).evaluate (space.applyAll batch) clock
  | readClock next, space, clock =>
      match Clock.read clock with
      | (time, later) => (next time).evaluate space later

theorem evaluate_bind (script : Script result) (next : result → Script other) (space : KeySpace)
    (clock : source) :
    (script.bind next).evaluate space clock =
      match script.evaluate space clock with
      | (value, after, later) => (next value).evaluate after later := by
  induction script generalizing space clock with
  | done value => rfl
  | ask query answered ih => exact ih (space.answer query) space clock
  | exec batch answered ih =>
      simp only [bind, evaluate]
      split
      next refusal _ => exact ih (.error refusal) space clock
      next => exact ih (.ok ()) (space.applyAll batch) clock
  | readClock told ih => exact ih (Clock.read clock).1 space (Clock.read clock).2

/-- Over a quiet link a script does what its evaluation says, and the link stays quiet. -/
theorem run_of_quiet (script : Script result) {link : Link} (quiet : link.Quiet) (clock : source) :
    (script.run link clock).2.1.Quiet ∧
      ((script.run link clock).1, (script.run link clock).2.1.memory.space,
        (script.run link clock).2.2) = script.evaluate link.memory.space clock := by
  induction script generalizing link clock with
  | done value => exact ⟨quiet, rfl⟩
  | ask query next ih =>
      have recorded : ({ link with calls := .ask query :: link.calls } : Link).Quiet :=
        ⟨quiet.unbroken, quiet.ready⟩
      simp only [run, Link.ask, quiet.pass, quiet.ready.ask_eq, evaluate]
      exact ih (link.memory.space.answer query) recorded clock
  | exec batch next ih =>
      have recorded (memory : Memory) (ready : memory.Ready) :
          ({ link with memory := memory, calls := .exec batch :: link.calls } : Link).Quiet :=
        ⟨quiet.unbroken, ready⟩
      have ready := quiet.ready.exec batch
      rw [quiet.ready.exec_eq] at ready
      simp only [run, Link.exec, quiet.pass, quiet.ready.exec_eq, evaluate]
      cases admitted : Admission.check link.memory.space batch with
      | error refusal => exact ih (.error refusal) (recorded link.memory quiet.ready) clock
      | ok pending =>
          rw [admitted] at ready
          exact ih (.ok ()) (recorded _ ready) clock
  | readClock next ih => exact ih (Clock.read clock).1 quiet (Clock.read clock).2

end Script

end DeviceCatalog
