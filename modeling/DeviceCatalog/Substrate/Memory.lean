import DeviceCatalog.Substrate.Admission
import DeviceCatalog.Substrate.Query

/-!
# The in-process substrate

A key space together with two switches for trying out failures: the next batch can be made to abort,
and the whole substrate can be made unreachable. A batch runs only after all of it was admitted, so
a batch that fails leaves the key space as it was.
-/

namespace DeviceCatalog

/-- An in-process substrate. -/
structure Memory where
  space : KeySpace
  /-- Why the next batch will abort, if it will. -/
  abortNext : Option String
  unavailable : Bool

namespace Memory

/-- A substrate that stores nothing and has no failure pending. -/
def empty : Memory where
  space := ∅
  abortNext := none
  unavailable := false

instance : Inhabited Memory := ⟨empty⟩

/-- What every call meets while the substrate is unreachable. -/
def unreachable : StorageError := .connection "substrate unavailable"

/-- Answers a query. -/
def ask (memory : Memory) (query : Query) : Except StorageError query.Answer :=
  if memory.unavailable then .error unreachable else memory.space.answer query

/-- Runs a batch: an unreachable substrate fails first and keeps a pending abort, a pending abort is
used up next, and then the batch is checked and applied as a whole. -/
def exec (memory : Memory) (batch : Batch) : Except StorageError Unit × Memory :=
  if memory.unavailable then (.error unreachable, memory)
  else
    match memory.abortNext with
    | some reason => (.error (.aborted reason), { memory with abortNext := none })
    | none =>
      match Admission.check memory.space batch with
      | .error refusal => (.error refusal, memory)
      | .ok _ => (.ok (), { memory with space := memory.space.applyAll batch })

/-- A batch that fails changes no stored value. -/
theorem space_exec_of_error {memory : Memory} {batch : Batch} {failure : StorageError}
    (failed : (memory.exec batch).1 = .error failure) :
    (memory.exec batch).2.space = memory.space := by
  unfold exec at failed ⊢
  split
  · rfl
  · split
    · rfl
    · split
      · rfl
      · simp_all

end Memory

end DeviceCatalog
