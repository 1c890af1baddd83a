import DeviceCatalog.Substrate.Admission

/-!
# Batches key by key

What a batch makes of a key depends only on the value there and on the commands addressed to it. A
batch is admitted without looking at any value once it is known which kind each key may hold: no
command of a batch that keeps to these kinds is ever refused.
-/

namespace DeviceCatalog

namespace Batch

/-- What a batch makes of the value under one key. -/
def effectAt (key : String) : Batch → Option Entry → Option Entry
  | [], entry => entry
  | command :: rest, entry =>
      effectAt key rest (if command.key = key then command.effect entry else entry)

variable {key : String} {entry : Option Entry}

@[simp] theorem effectAt_nil : effectAt key [] entry = entry := rfl

theorem effectAt_cons_of_eq {command : Command} {rest : Batch} (same : command.key = key) :
    effectAt key (command :: rest) entry = effectAt key rest (command.effect entry) := by
  rw [effectAt, if_pos same]

theorem effectAt_cons_of_ne {command : Command} {rest : Batch} (different : command.key ≠ key) :
    effectAt key (command :: rest) entry = effectAt key rest entry := by
  rw [effectAt, if_neg different]

theorem effectAt_append (first second : Batch) :
    effectAt key (first ++ second) entry = effectAt key second (effectAt key first entry) := by
  induction first generalizing entry with
  | nil => rfl
  | cons command rest ih => exact ih

/-- Commands addressed to other keys do nothing to this one. -/
theorem effectAt_of_forall_ne {batch : Batch} (elsewhere : ∀ command ∈ batch, command.key ≠ key) :
    effectAt key batch entry = entry := by
  induction batch with
  | nil => rfl
  | cons command rest ih =>
      rw [effectAt_cons_of_ne (elsewhere command (by simp))]
      exact ih fun other member => elsewhere other (by simp [member])

/-- Of commands addressed to different keys only the one addressed to this key matters. -/
theorem effectAt_map {groups : List String} (distinct : groups.Nodup) (command : String → Command)
    (addressed : ∀ group, (command group).key = group) :
    effectAt key (groups.map command) entry =
      if key ∈ groups then (command key).effect entry else entry := by
  induction groups with
  | nil => rfl
  | cons group rest ih =>
      obtain ⟨fresh, others⟩ := List.nodup_cons.1 distinct
      rw [List.map_cons]
      by_cases same : group = key
      · subst same
        have elsewhere : ∀ other ∈ rest.map command, other.key ≠ group := by
          intro other member
          obtain ⟨name, listed, rfl⟩ := List.mem_map.1 member
          rw [addressed]
          rintro rfl
          exact fresh listed
        rw [effectAt_cons_of_eq (addressed group), effectAt_of_forall_ne elsewhere]
        simp
      · rw [effectAt_cons_of_ne (by rwa [addressed]), ih others]
        simp [Ne.symm same]

end Batch

namespace KeySpace

theorem getElem?_applyAll (space : KeySpace) (batch : Batch) (key : String) :
    (space.applyAll batch)[key]? = batch.effectAt key space[key]? := by
  induction batch generalizing space with
  | nil => rfl
  | cons command rest ih =>
      rw [applyAll_cons, ih, getElem?_apply, Batch.effectAt]
      split
      next same => rw [same]
      next => rfl

end KeySpace

/-! ## Kinds of keys -/

/-- Which kind of value each key may hold, for the keys that it speaks of. -/
structure Typing where
  keeps : String → Kind → Prop
  unique : ∀ {key first second}, keeps key first → keeps key second → first = second

namespace Typing

variable {typing : Typing}

/-- An entry is absent or of the kind that its key may hold. -/
def Allows (typing : Typing) (key : String) (held : Option Kind) : Prop :=
  ∀ kind, typing.keeps key kind → held = none ∨ held = some kind

/-- Every key of the typing is absent or holds a value of its kind. -/
def Fits (typing : Typing) (space : KeySpace) : Prop :=
  ∀ key : String, typing.Allows key (space[key]?.map Entry.kind)

/-- A command leaves its key with a value of the kind that the key may hold. -/
def Suits (typing : Typing) : Command → Prop
  | .set key _ => typing.keeps key .string
  | .del _ => True
  | .zadd key _ _ | .zrem key _ => typing.keeps key .sortedSet
  | .hset key _ _ | .hdel key _ => typing.keeps key .hash

theorem Allows.of_keeps {key : String} {kind : Kind} (keeps : typing.keeps key kind) :
    typing.Allows key (some kind) := by
  intro other kept
  exact .inr (congrArg some (typing.unique keeps kept))

theorem Allows.none {key : String} : typing.Allows key none := fun _ _ => .inl rfl

/-- A command that suits the typing is not refused, and its key still fits afterwards. -/
theorem Allows.advance {projection : Projection} {command : Command}
    (allows : typing.Allows command.key projection.kind) (suits : typing.Suits command) :
    projection.refusal? command = Option.none ∧
      typing.Allows command.key (projection.advance command).kind := by
  have admitted : ∀ kind, command.needs = some kind → typing.keeps command.key kind →
      projection.refusal? command = Option.none := by
    intro kind needed kept
    rw [Projection.refusal?, needed]
    rcases allows kind kept with absent | present
    · rw [absent]
    · rw [present]
      simp
  have removed : ∀ member, typing.Allows command.key (projection.remove member).kind := by
    intro member
    rw [Projection.remove]
    split
    next => exact allows
    next =>
      split
      next => exact .none
      next => exact allows
  cases command with
  | set key value => exact ⟨by simp [Projection.refusal?, Command.needs], .of_keeps suits⟩
  | del key => exact ⟨by simp [Projection.refusal?, Command.needs], .none⟩
  | zadd key score member => exact ⟨admitted .sortedSet rfl suits, .of_keeps suits⟩
  | zrem key member => exact ⟨admitted .sortedSet rfl suits, removed member⟩
  | hset key field value => exact ⟨admitted .hash rfl suits, .of_keeps suits⟩
  | hdel key field => exact ⟨admitted .hash rfl suits, removed field⟩

/-- A batch that keeps to the kinds of its keys is admitted. -/
theorem Fits.check {space : KeySpace} (fits : typing.Fits space) {batch : Batch}
    (suits : ∀ command ∈ batch, typing.Suits command) :
    ∃ pending, Admission.check space batch = .ok pending := by
  suffices projected : ∀ pending : Admission.Pending,
      (∀ key, typing.Allows key (Admission.projectionOf space pending key).kind) →
      ∃ after, batch.foldlM (Admission.step space) pending = .ok after by
    refine projected ∅ fun key => ?_
    simpa [Admission.projectionOf, Projection.ofEntry] using fits key
  induction batch with
  | nil => exact fun pending _ => ⟨pending, rfl⟩
  | cons command rest ih =>
      intro pending allows
      obtain ⟨admitted, kept⟩ := (allows command.key).advance (suits command (by simp))
      rw [List.foldlM_cons, Admission.step, admitted]
      refine ih (fun other member => suits other (by simp [member])) _ fun key => ?_
      rw [Admission.projectionOf_insert]
      split
      next same => exact same ▸ kept
      next => exact allows key

end Typing

end DeviceCatalog
