import DeviceCatalog.Proofs.Substrate.Locality
import DeviceCatalog.Proofs.Substrate.Sequential

/-!
# Batches that keep to the kinds of keys

A batch whose commands suit a typing meets no value of a wrong kind on any key space that fits the
typing: neither in the check of the whole batch nor when its commands run one by one. The key space
fits the typing afterwards, so batches of this sort can follow one another in any order.
-/

namespace DeviceCatalog

namespace Typing

variable {typing : Typing} {space : KeySpace} {command : Command} {entry : Option Entry}

/-- A command that suits the typing leaves its key absent or with a value of its kind. -/
theorem Allows.effect (allows : typing.Allows command.key (entry.map Entry.kind))
    (suits : typing.Suits command) :
    typing.Allows command.key ((command.effect entry).map Entry.kind) := by
  fun_cases command.effect entry with
  | case1 | case3 | case4 | case6 | case7 | case8 | case10 => exact .of_keeps suits
  | case2 | case5 | case9 => exact .none
  -- The value is of another kind, or there is nothing to remove from.
  | case11 => exact allows

theorem Fits.refusal? (fits : typing.Fits space) (suits : typing.Suits command) :
    command.refusal? space[command.key]? = none := by
  rw [← (Projection.describes_ofEntry space[command.key]?).refusal?]
  exact (Allows.advance (fits command.key) suits).1

theorem Fits.apply (fits : typing.Fits space) (suits : typing.Suits command) :
    typing.Fits (space.apply command) := by
  intro key
  rw [KeySpace.getElem?_apply]
  split
  next same => exact same ▸ (fits command.key).effect suits
  next => exact fits key

theorem Fits.applyAll (fits : typing.Fits space) {batch : Batch}
    (suits : ∀ command ∈ batch, typing.Suits command) : typing.Fits (space.applyAll batch) := by
  induction batch generalizing space with
  | nil => exact fits
  | cons command rest ih =>
      exact ih (fits.apply (suits command (by simp))) fun other listed => suits other (by simp [listed])

/-- Commands that suit the typing run through one by one. -/
theorem Fits.executeAll (fits : typing.Fits space) {batch : Batch}
    (suits : ∀ command ∈ batch, typing.Suits command) :
    space.executeAll batch = .ok (space.applyAll batch) := by
  induction batch generalizing space with
  | nil => rfl
  | cons command rest ih =>
      have first : typing.Suits command := suits command (by simp)
      have passed : space.execute command = .ok (space.apply command) := by
        rw [KeySpace.execute_eq, fits.refusal? first]
      simp only [KeySpace.executeAll, List.foldlM_cons, passed]
      exact ih (fits.apply first) fun other listed => suits other (by simp [listed])

end Typing

namespace Memory

variable {memory : Memory} {typing : Typing}

/-- A batch that suits the typing runs through on a substrate that is ready. -/
theorem Ready.exec_of_fits (ready : memory.Ready) (fits : typing.Fits memory.space) {batch : Batch}
    (suits : ∀ command ∈ batch, typing.Suits command) :
    memory.exec batch = (.ok (), { memory with space := memory.space.applyAll batch }) := by
  obtain ⟨pending, admitted⟩ := fits.check suits
  rw [ready.exec_eq, admitted]

end Memory

end DeviceCatalog
