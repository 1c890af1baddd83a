import DeviceCatalog.Substrate.Command
import DeviceCatalog.Substrate.Query

/-!
# Scripts of substrate calls

What an operation of the directory does to the outside world is a script: a tree of queries, batches
and clock readings, where each answer, a failure included, selects the rest. A script is plain data,
so which calls an operation makes, in which order, and what it does after a failed one can be stated
without running it, and one script can be run against a live substrate, against answers that have
grown stale, or against injected failures.
-/

namespace DeviceCatalog

/-- A tree of calls with results of type `result` at its ends. -/
inductive Script (result : Type) where
  | done (value : result)
  | ask (query : Query) (next : Except StorageError query.Answer → Script result)
  | exec (batch : Batch) (next : Except StorageError Unit → Script result)
  | readClock (next : Int64 → Script result)

namespace Script

variable {first second third : Type}

/-- Runs one script after another. -/
def bind : Script first → (first → Script second) → Script second
  | done value, next => next value
  | ask query answered, next => ask query fun answer => (answered answer).bind next
  | exec batch answered, next => exec batch fun answer => (answered answer).bind next
  | readClock told, next => readClock fun time => (told time).bind next

instance : Monad Script where
  pure := done
  bind := bind

@[simp] theorem pure_eq (value : first) : (pure value : Script first) = done value := rfl

@[simp] theorem bind_eq (script : Script first) (next : first → Script second) :
    script >>= next = script.bind next := rfl

@[simp] theorem done_bind (value : first) (next : first → Script second) :
    (done value).bind next = next value := rfl

theorem bind_done (script : Script first) : script.bind done = script := by
  induction script with
  | done value => rfl
  | ask query next ih => simp [bind, ih]
  | exec batch next ih => simp [bind, ih]
  | readClock next ih => simp [bind, ih]

theorem bind_assoc (script : Script first) (next : first → Script second)
    (last : second → Script third) :
    (script.bind next).bind last = script.bind fun value => (next value).bind last := by
  induction script with
  | done value => rfl
  | ask query next ih => simp [bind, ih]
  | exec batch next ih => simp [bind, ih]
  | readClock next ih => simp [bind, ih]

instance : LawfulMonad Script :=
  LawfulMonad.mk' Script (fun script => bind_done script) (fun _ _ => rfl) bind_assoc

end Script

end DeviceCatalog
