import DeviceCatalog.Proofs.Substrate.Evaluation
import DeviceCatalog.Proofs.Substrate.Locality

/-!
# Interleaved commands on different keys

The check of a batch and its application both go through all commands in one order, but neither carries
anything from one key over to another. A batch is therefore admitted when the commands addressed to each
key are, taken for themselves, and it leaves under each key what these commands make of the value there.
How commands on different keys are interleaved decides at most which of several refusals is reported.
-/

namespace DeviceCatalog

namespace Batch

/-- The commands that are addressed to a key, in their order. -/
def addressedTo (key : String) (batch : Batch) : Batch :=
  batch.filter fun command => command.key = key

variable {key : String} {command : Command} {rest : Batch}

theorem addressedTo_cons_of_eq (same : command.key = key) :
    addressedTo key (command :: rest) = command :: addressedTo key rest := by
  simp [addressedTo, same]

theorem addressedTo_cons_of_ne (different : command.key ≠ key) :
    addressedTo key (command :: rest) = addressedTo key rest := by
  simp [addressedTo, different]

/-- A batch makes of the value under a key what the commands addressed to the key make of it. -/
theorem effectAt_eq_foldl (batch : Batch) (entry : Option Entry) :
    effectAt key batch entry =
      (addressedTo key batch).foldl (fun reached command => command.effect reached) entry := by
  induction batch generalizing entry with
  | nil => rfl
  | cons command rest ih =>
      by_cases same : command.key = key
      · rw [effectAt_cons_of_eq same, addressedTo_cons_of_eq same, ih, List.foldl_cons]
      · rw [effectAt_cons_of_ne same, addressedTo_cons_of_ne same, ih]

end Batch

namespace KeySpace

/-- Batches in which each key finds the same commands lead to the same key space. -/
theorem applyAll_eq_of_addressedTo {first second : Batch}
    (same : ∀ key, first.addressedTo key = second.addressedTo key) (space : KeySpace) :
    space.applyAll first = space.applyAll second := by
  apply Std.ExtTreeMap.ext_getElem?
  intro key
  rw [getElem?_applyAll, getElem?_applyAll, Batch.effectAt_eq_foldl, Batch.effectAt_eq_foldl, same]

end KeySpace

namespace Projection

/-- None of these commands is refused when the key that they are addressed to is projected so. -/
def Accepts : Projection → Batch → Prop
  | _, [] => True
  | projection, command :: rest =>
      projection.refusal? command = none ∧ (projection.advance command).Accepts rest

end Projection

namespace Admission

/-- The check lets commands through exactly when each key accepts those that are addressed to it. -/
theorem exists_foldlM_eq_ok_iff (space : KeySpace) (batch : Batch) (pending : Pending) :
    (∃ after, batch.foldlM (step space) pending = .ok after) ↔
      ∀ key, (projectionOf space pending key).Accepts (batch.addressedTo key) := by
  induction batch generalizing pending with
  | nil =>
      constructor
      · intro _ key
        trivial
      · intro _
        exact ⟨pending, rfl⟩
  | cons command rest ih =>
      constructor
      · rintro ⟨after, admitted⟩ key
        obtain ⟨between, stepped, continued⟩ := foldlM_step_cons_eq_ok_iff.1 admitted
        obtain ⟨accepted, rfl⟩ := step_eq_ok_iff.1 stepped
        have onward := (ih _).1 ⟨after, continued⟩ key
        rw [projectionOf_insert] at onward
        by_cases same : command.key = key
        · rw [if_pos same] at onward
          rw [Batch.addressedTo_cons_of_eq same]
          exact same ▸ ⟨accepted, same ▸ onward⟩
        · rw [if_neg same] at onward
          rwa [Batch.addressedTo_cons_of_ne same]
      · intro accepts
        have own := accepts command.key
        rw [Batch.addressedTo_cons_of_eq rfl] at own
        obtain ⟨accepted, onward⟩ := own
        have others : ∀ key, (projectionOf space (pending.insert command.key
            ((projectionOf space pending command.key).advance command)) key).Accepts
              (Batch.addressedTo key rest) := by
          intro key
          rw [projectionOf_insert]
          split
          next same => exact same ▸ onward
          next different =>
            rw [← Batch.addressedTo_cons_of_ne different]
            exact accepts key
        obtain ⟨after, continued⟩ := (ih _).2 others
        exact ⟨after, foldlM_step_cons_eq_ok_iff.2
          ⟨_, step_eq_ok_iff.2 ⟨accepted, rfl⟩, continued⟩⟩

/-- Batches in which each key finds the same commands are admitted alike. -/
theorem exists_check_eq_ok_congr {first second : Batch}
    (same : ∀ key, first.addressedTo key = second.addressedTo key) (space : KeySpace) :
    (∃ pending, check space first = .ok pending) ↔ ∃ pending, check space second = .ok pending := by
  simp only [check, exists_foldlM_eq_ok_iff, same]

end Admission

namespace Memory

/-- A failure that is set up meets every batch alike. -/
theorem exists_exec_eq_error {memory : Memory} (unready : ¬ memory.Ready) :
    ∃ failure after, ∀ batch, memory.exec batch = (.error failure, after) := by
  cases unreached : memory.unavailable with
  | true => exact ⟨unreachable, memory, fun batch => by rw [exec, if_pos unreached]⟩
  | false =>
      cases pending : memory.abortNext with
      | none => exact absurd ⟨pending, unreached⟩ unready
      | some reason =>
          refine ⟨.aborted reason, { memory with abortNext := none }, fun batch => ?_⟩
          simp only [exec, unreached, pending, Bool.false_eq_true, if_false]

/-- Another batch in which each key finds the same commands, only interleaved differently over the
keys, is accepted or rejected alike and leaves the same substrate. An accepted batch leaves under each
key what the commands addressed to the key make, one after another, of the value that was there; other
keys and their commands have no part in it. -/
theorem exec_addressedTo (memory : Memory) (batch : Batch) :
    (∀ other : Batch, (∀ key, batch.addressedTo key = other.addressedTo key) →
      ((memory.exec batch).1 = .ok () ↔ (memory.exec other).1 = .ok ()) ∧
        (memory.exec batch).2 = (memory.exec other).2) ∧
    ((memory.exec batch).1 = .ok () → ∀ key : String,
      (memory.exec batch).2.space[key]? =
        (batch.addressedTo key).foldl (fun reached command => command.effect reached)
          memory.space[key]?) := by
  constructor
  · intro other same
    by_cases ready : memory.Ready
    · have alike := Admission.exists_check_eq_ok_congr same memory.space
      rw [ready.exec_eq, ready.exec_eq, KeySpace.applyAll_eq_of_addressedTo same]
      cases first : Admission.check memory.space batch with
      | error refusal =>
          cases second : Admission.check memory.space other with
          | error otherRefusal => simp
          | ok pending => simp [first, second] at alike
      | ok pending =>
          cases second : Admission.check memory.space other with
          | error refusal => simp [first, second] at alike
          | ok otherPending => simp
    · obtain ⟨failure, after, fails⟩ := exists_exec_eq_error ready
      rw [fails, fails]
      exact ⟨Iff.rfl, rfl⟩
  · intro accepted key
    obtain ⟨-, -, applied⟩ := of_exec_eq_ok accepted
    rw [applied, KeySpace.getElem?_applyAll, Batch.effectAt_eq_foldl]

/-- Two keys trade their kinds within one batch, with the commands of one first or in turns. -/
theorem exec_addressedTo_traded :
    let memory : Memory :=
      ⟨(∅ : KeySpace).applyAll [.zadd "z" .zero "a", .hset "h" "f" "v"], none, false⟩
    let batch : Batch := [.zrem "z" "a", .hset "z" "f" "v", .hdel "h" "f", .zadd "h" .zero "a"]
    let other : Batch := [.hdel "h" "f", .zrem "z" "a", .zadd "h" .zero "a", .hset "z" "f" "v"]
    (∀ key, batch.addressedTo key = other.addressedTo key) ∧ (memory.exec batch).1 = .ok () ∧
      (memory.exec other).1 = .ok () ∧ (memory.exec batch).2 = (memory.exec other).2 ∧
      (memory.exec batch).2.space["h"]? =
        some (.sortedSet (SortedSet.empty.insert "a" .zero).2) := by
  intro memory batch other
  have same : ∀ key, batch.addressedTo key = other.addressedTo key := by
    intro key
    by_cases ranked : "z" = key
    · subst ranked
      rfl
    · by_cases tabled : "h" = key
      · subst tabled
        rfl
      · simp [batch, other, Batch.addressedTo, Command.key, ranked, tabled]
  have accepted : (memory.exec batch).1 = .ok () := by rfl
  obtain ⟨alike, values⟩ := exec_addressedTo memory batch
  obtain ⟨verdict, left⟩ := alike other same
  refine ⟨same, accepted, verdict.1 accepted, left, ?_⟩
  rw [values accepted]
  rfl

/-- The failures of rejected batches differ where another command is the first to be refused. -/
example :
    let memory : Memory := ⟨(∅ : KeySpace).applyAll [.set "s" [], .set "t" []], none, false⟩
    (memory.exec [.zadd "s" .zero "a", .hset "t" "f" "v"]).1 =
        .error (.wrongType "s" .sortedSet .string) ∧
      (memory.exec [.hset "t" "f" "v", .zadd "s" .zero "a"]).1 =
        .error (.wrongType "t" .hash .string) :=
  ⟨rfl, rfl⟩

end Memory

end DeviceCatalog
