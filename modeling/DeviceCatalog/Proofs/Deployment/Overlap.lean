import DeviceCatalog.Proofs.Deployment
import DeviceCatalog.Proofs.Directory.Coherence
import DeviceCatalog.Proofs.Directory.Staleness

/-!
# Writes that overlap

An update or a removal builds its batch from the record that it has read. Other calls may have changed
the record by the time the batch runs, and the batch does not find out: an update writes the record of
a device that is gone, and either of them leaves the device in groups that it has joined since. The key
space stays coherent exactly when neither happens.
-/

namespace DeviceCatalog

/-! ## What a call submits after its reads -/

namespace Directory

variable {layout : Layout} {space : KeySpace} {catalog : Catalog} {batch : Batch} {device : Device}
variable {source : Type} [Clock source]

namespace Action

variable {result other : Type} {script : Script (Except Error result)}

/-- An action that reads one key space goes on with what it evaluates to there. -/
theorem Reading.submits_iff {next : Except Error result → Script other} (reading : Reading script)
    (clock : source) :
    (script.bind next).Submits (· = space) batch ↔
      (next (script.evaluate space clock).1).Submits (· = space) batch := by
  induction reading with
  | done outcome => rfl
  | @ask query answered description fails _ ih =>
      have asked : ((Script.ask query answered).bind next).Submits (· = space) batch ↔
          ((answered (space.answer query)).bind next).Submits (· = space) batch := by
        constructor
        · rintro (_ | ⟨_, rfl, rest⟩)
          exact rest
        · exact fun rest => .ask space rfl rest
      rw [asked, Script.evaluate]
      cases space.answer query with
      | error failure =>
          rw [fails]
          rfl
      | ok answer => exact ih answer

variable {action : Action result} {continuation : result → Action other}
variable {later : KeySpace} {clock after : source}

theorem Reading.submits_iff_of_ok (reading : Reading action.run) {value : result}
    (evaluated : action.run.evaluate space clock = (.ok value, later, after)) :
    (action >>= continuation).run.Submits (· = space) batch ↔
      (continuation value).run.Submits (· = space) batch := by
  rw [ExceptT.run_bind, Script.bind_eq, reading.submits_iff clock, evaluated]

theorem Reading.not_submits_of_error (reading : Reading action.run) {failure : Error}
    (evaluated : action.run.evaluate space clock = (.error failure, later, after)) :
    ¬ (action >>= continuation).run.Submits (· = space) batch := by
  rw [ExceptT.run_bind, Script.bind_eq, reading.submits_iff clock, evaluated]
  rintro ⟨⟩

theorem submits_store_iff {description : String} {stamped : Int64 → Device}
    {queued : Device → Batch} :
    (do
      let now ← Action.readClock
      Action.commit description (queued (stamped now))
      return stamped now : Action Device).run.Submits (· = space) batch ↔
      ∃ now, batch = queued (stamped now) := by
  refine ⟨exists_eq_of_submits_store, ?_⟩
  rintro ⟨now, rfl⟩
  exact .readClock now (.exec _)

theorem submits_remove_iff :
    (remove layout device).run.Submits (· = space) batch ↔ batch = removal layout device := by
  constructor
  · rintro ⟨⟩
    rfl
  · rintro rfl
    exact .exec _

end Action

open DeviceCatalog.Directory.Action

/-- An update that reads the image of a catalog replaces the device with its id, whose name it keeps
or changes to one that no device bears. -/
theorem submits_update_iff (mirrors : Mirrors layout space catalog) :
    (update layout device).run.Submits (· = space) batch ↔
      Catalog.refusal? layout device = none ∧ ∃ old, catalog[device.id]? = some old ∧
        (old.name ≠ device.name → catalog.bearer? device.name = none) ∧
        ∃ now, batch =
          replacement layout old { device with created := old.created, modified := now } := by
  -- The reads do not look at the clock, so any clock will do for evaluating them.
  let clock : ManualClock := ⟨0, 0⟩
  rw [update, Catalog.validateFor_eq]
  cases accepted : Catalog.refusal? layout device with
  | some reason =>
      have refused : (Action.ofExcept (.error reason : Except Error Unit)).run.evaluate space clock =
          (.error reason, space, clock) := rfl
      exact iff_of_false ((Reading.ofExcept _).not_submits_of_error refused) (by simp)
  | none =>
      obtain ⟨admits, _⟩ := Catalog.admits_of_refusal? accepted
      have found := mirrors.evaluate_deviceById (.inr admits.nonempty) clock
      have reads := reading_deviceById layout device.id
      rw [(Reading.ofExcept _).submits_iff_of_ok (evaluate_ofExcept () clock), and_iff_right rfl]
      cases lookup : catalog[device.id]? with
      | none =>
          rw [lookup] at found
          exact iff_of_false (reads.not_submits_of_error found) (by simp)
      | some old =>
          rw [lookup] at found
          rw [reads.submits_iff_of_ok found]
          simp only [Option.some.injEq, exists_eq_left']
          by_cases renamed : old.name ≠ device.name
          · have named := mirrors.evaluate_existsName device.name clock
            rw [if_pos renamed, (reading_existsName layout device.name).submits_iff_of_ok named]
            cases catalog.bearer? device.name with
            | none =>
                rw [and_iff_right fun _ => rfl]
                exact submits_store_iff
            | some bearer => exact iff_of_false (by rintro ⟨⟩) (by simp [renamed])
          · rw [if_neg renamed, and_iff_right fun different => absurd different renamed]
            exact submits_store_iff

/-- A removal removes the device that its search finds. -/
theorem submits_remove_found_iff {find : Action Device} {found : Option Device} {missing : Error}
    {clock : source} (reading : Reading find.run)
    (evaluated : find.run.evaluate space clock = (Catalog.answer found missing, space, clock)) :
    (find >>= remove layout).run.Submits (· = space) batch ↔
      ∃ old, found = some old ∧ batch = removal layout old := by
  cases found with
  | none => exact iff_of_false (reading.not_submits_of_error evaluated) (by simp)
  | some old =>
      rw [reading.submits_iff_of_ok evaluated, submits_remove_iff]
      simp

theorem submits_deleteById_iff (mirrors : Mirrors layout space catalog) {id : String} :
    (deleteById layout id).run.Submits (· = space) batch ↔
      ∃ old, catalog[id]? = some old ∧ batch = removal layout old := by
  let clock : ManualClock := ⟨0, 0⟩
  have reads := reading_deviceById layout id
  cases lookup : catalog[id]? with
  | none =>
      obtain ⟨failure, failed⟩ := mirrors.evaluate_deviceById_of_absent lookup clock
      exact iff_of_false (reads.not_submits_of_error failed) (by simp)
  | some old =>
      have nonempty : id ≠ "" := by
        obtain ⟨held, rfl⟩ := mirrors.valid.lookup_iff.1 lookup
        exact (mirrors.valid.admits old held).nonempty
      have found := mirrors.evaluate_deviceById (.inr nonempty) clock
      rw [lookup] at found
      exact submits_remove_found_iff reads found

theorem submits_deleteByName_iff (mirrors : Mirrors layout space catalog) {name : String} :
    (deleteByName layout name).run.Submits (· = space) batch ↔
      ∃ old, catalog.bearer? name = some old ∧ batch = removal layout old :=
  submits_remove_found_iff (reading_deviceByName layout name)
    (mirrors.evaluate_deviceByName name (⟨0, 0⟩ : ManualClock))

end Directory

/-! ## Coherence after an overlap -/

/-- The times of a device have nothing to do with its groups. -/
theorem Device.memberOf_stamped (device : Device) (created modified : Int64) (group : Group) :
    { device with created := created, modified := modified }.MemberOf group ↔
      device.MemberOf group := by
  cases group <;> rfl

namespace Deployment

open Directory

variable {source : Type}

/-- As long as nothing fails, a batch whose commands suit the kinds of keys commits. -/
theorem Follows.exec_eq_ok {layout : Layout} {deployment : Deployment source}
    {registry : Registry source} (follows : deployment.Follows layout registry) {batch : Batch}
    (suits : ∀ command ∈ batch, layout.typing.Suits command) :
    (deployment.link.memory.exec batch).1 = .ok () := by
  rw [follows.quiet.ready.exec_of_fits follows.mirrors.fits suits]

variable [Clock source]

/-- A call has read the key space as some events had left it, and its batch commits after further
events. The key space was coherent until then. After an update it still is exactly when the device has
not been removed meanwhile, and is in no group that is neither one of the device that was read nor one
of the device to be stored. After a removal it still is exactly when the device, if it is there, is in
no group that it was not in when it was read. -/
theorem coherent_overlap_iff (layout : Layout) (clocks : List source)
    (events between : List (Event source)) {earlier later : Deployment source}
    (before : earlier = (startShared layout clocks).after events)
    (after : later = earlier.after between) :
    let read := earlier.link.memory.space
    let memory := later.link.memory
    memory.space.Coherent layout ∧
      (∀ device batch, (update layout device).run.Submits (· = read) batch →
        (memory.exec batch).1 = .ok () →
        ∃ old, read.Records (layout.recordKey device.id) old ∧
          ((memory.exec batch).2.space.Coherent layout ↔
            memory.space.HasRecord (layout.recordKey device.id) ∧
              ∀ current, memory.space.Records (layout.recordKey device.id) current →
                ∀ group, current.MemberOf group → old.MemberOf group ∨ device.MemberOf group)) ∧
      (∀ id batch, (deleteById layout id).run.Submits (· = read) batch →
        (memory.exec batch).1 = .ok () →
        ∃ old, read.Records (layout.recordKey id) old ∧
          ((memory.exec batch).2.space.Coherent layout ↔
            ∀ current, memory.space.Records (layout.recordKey id) current →
              ∀ group, current.MemberOf group → old.MemberOf group)) ∧
      ∀ name batch, (deleteByName layout name).run.Submits (· = read) batch →
        (memory.exec batch).1 = .ok () →
        ∃ old, old.name = name ∧ read.Records (layout.recordKey old.id) old ∧
          ((memory.exec batch).2.space.Coherent layout ↔
            ∀ current, memory.space.Records (layout.recordKey old.id) current →
              ∀ group, current.MemberOf group → old.MemberOf group) := by
  intro read memory
  have sound : earlier.Sound layout := before ▸ (sound_startShared layout clocks).after events
  obtain ⟨catalog, mirrors⟩ := sound.mirrored
  obtain ⟨_, mirrored⟩ := (after ▸ sound.after between : later.Sound layout).mirrored
  have coherent : memory.space.Coherent layout := mirrored.coherent
  have applied {batch : Batch} (committed : (memory.exec batch).1 = .ok ()) :
      (memory.exec batch).2.space = memory.space.applyAll batch := by
    obtain ⟨_, _, applied⟩ := Memory.of_exec_eq_ok committed
    exact applied
  have removes {old : Device} (held : catalog.Holds old)
      (committed : (memory.exec (removal layout old)).1 = .ok ()) :
      read.Records (layout.recordKey old.id) old ∧
        ((memory.exec (removal layout old)).2.space.Coherent layout ↔
          ∀ current, memory.space.Records (layout.recordKey old.id) current →
            ∀ group, current.MemberOf group → old.MemberOf group) := by
    rw [applied committed]
    exact ⟨mirrors.records_iff.2 ⟨held, rfl⟩,
      coherent_removal_iff mirrored.fits coherent (mirrors.valid.admits old held)⟩
  refine ⟨coherent, ?_, ?_, ?_⟩
  · intro device batch submits committed
    obtain ⟨accepted, old, lookup, _, now, rfl⟩ := (submits_update_iff mirrors).1 submits
    obtain ⟨admits, _⟩ := Catalog.admits_of_refusal? accepted
    refine ⟨old, mirrors.records_recordKey_iff.2 lookup, ?_⟩
    let stored := { device with created := old.created, modified := now }
    have replaced := @coherent_replacement_iff layout memory.space old stored mirrored.fits coherent
      admits
    rw [applied committed, replaced]
    simp only [stored, Device.memberOf_stamped]
  · intro id batch submits committed
    obtain ⟨old, lookup, rfl⟩ := (submits_deleteById_iff mirrors).1 submits
    obtain ⟨held, rfl⟩ := mirrors.valid.lookup_iff.1 lookup
    exact ⟨old, removes held committed⟩
  · intro name batch submits committed
    obtain ⟨old, bears, rfl⟩ := (submits_deleteByName_iff mirrors).1 submits
    obtain ⟨held, rfl⟩ := (Catalog.bearer?_eq_some_iff mirrors.valid).1 bears
    exact ⟨old, rfl, removes held committed⟩

/-- A device is read, and it is removed or takes another label before the batch commits. An update
brings the record of the removed device back without its entry in the index of ids, and neither an
update nor a removal takes the device out of the group of the other label. -/
theorem coherent_overlap_iff_stale :
    let device := { Device.plain "a" "b" "s" "p" with labels := ["x"] }
    let read := { device with created := 1000, modified := 1000 }
    let wanted := { device with labels := ["z"] }
    let replaces := replacement .standard read { wanted with created := 1000, modified := 5000 }
    let removes := removal .standard read
    let earlier := (startShared .standard [(⟨1000, 1⟩ : ManualClock), ⟨5000, 1⟩]).after
      [.call 0 (.create device)]
    let removed := earlier.after [.call 0 (.deleteById "a")]
    let moved := earlier.after [.call 0 (.update { device with labels := ["y"] })]
    (update .standard wanted).run.Submits (· = earlier.link.memory.space) replaces ∧
      (deleteById .standard "a").run.Submits (· = earlier.link.memory.space) removes ∧
      (removed.link.memory.exec replaces).1 = .ok () ∧
      ¬ (removed.link.memory.exec replaces).2.space.Coherent .standard ∧
      (moved.link.memory.exec replaces).1 = .ok () ∧
      ¬ (moved.link.memory.exec replaces).2.space.Coherent .standard ∧
      (moved.link.memory.exec removes).1 = .ok () ∧
      ¬ (moved.link.memory.exec removes).2.space.Coherent .standard := by
  intro device read wanted replaces removes earlier removed moved
  let clocks := [(⟨1000, 1⟩ : ManualClock), ⟨5000, 1⟩]
  let moves : Request := .update { device with labels := ["y"] }
  let current := { device with labels := ["y"], created := 1000, modified := 1001 }
  let registry := (Registry.mk ∅ clocks).afterCalls .standard [(0, .create device)]
  have admits : Layout.standard.Admits "a" := ⟨by decide, by decide⟩
  have before : earlier.Follows .standard registry :=
    (follows_startShared .standard clocks).afterCalls [(0, .create device)]
  have afterRemoval :
      removed.Follows .standard (registry.afterCalls .standard [(0, .deleteById "a")]) :=
    before.afterCalls [(0, .deleteById "a")]
  have afterMove : moved.Follows .standard (registry.afterCalls .standard [(0, moves)]) :=
    before.afterCalls [(0, moves)]
  have onRemoved := @coherent_overlap_iff _ _ .standard clocks [.call 0 (.create device)]
    [.call 0 (.deleteById "a")] earlier removed rfl rfl
  have onMoved := @coherent_overlap_iff _ _ .standard clocks [.call 0 (.create device)]
    [.call 0 moves] earlier moved rfl rfl
  -- From here on the key spaces are known through the catalogs that they mirror.
  clear_value earlier removed moved
  have stored : registry.catalog["a"]? = some read := by
    dsimp only [registry, clocks, read, device]
    rfl
  have gone : (registry.afterCalls .standard [(0, .deleteById "a")]).catalog["a"]? = none := by
    dsimp only [registry, clocks, device]
    rfl
  have labelled : (registry.afterCalls .standard [(0, moves)]).catalog["a"]? = some current := by
    dsimp only [registry, clocks, moves, current, device]
    rfl
  clear_value registry
  have updates : (update .standard wanted).run.Submits (· = earlier.link.memory.space) replaces :=
    (submits_update_iff before.mirrors).2
      ⟨by decide, read, stored, fun renamed => absurd rfl renamed, 5000, rfl⟩
  have deletes : (deleteById .standard "a").run.Submits (· = earlier.link.memory.space) removes :=
    (submits_deleteById_iff before.mirrors).2 ⟨read, stored, rfl⟩
  have replacesRemoved : (removed.link.memory.exec replaces).1 = .ok () :=
    afterRemoval.exec_eq_ok (suits_replacement admits)
  have replacesMoved : (moved.link.memory.exec replaces).1 = .ok () :=
    afterMove.exec_eq_ok (suits_replacement admits)
  have removesMoved : (moved.link.memory.exec removes).1 = .ok () :=
    afterMove.exec_eq_ok suits_removal
  have known {old : Device}
      (recorded : earlier.link.memory.space.Records (Layout.standard.recordKey "a") old) :
      old = read :=
    Option.some.inj ((before.mirrors.records_recordKey_iff.1 recorded).symm.trans stored)
  have present : moved.link.memory.space.Records (Layout.standard.recordKey "a") current :=
    afterMove.mirrors.records_recordKey_iff.2 labelled
  have absent : ¬ removed.link.memory.space.HasRecord (Layout.standard.recordKey "a") := by
    rw [afterRemoval.mirrors.hasRecord_recordKey_iff, gone]
    exact Bool.false_ne_true
  have joined : current.MemberOf (.label "y") := List.mem_singleton.2 rfl
  have unread : ¬ read.MemberOf (.label "y") := by simp [Device.MemberOf, read, device]
  have unwanted : ¬ wanted.MemberOf (.label "y") := by simp [Device.MemberOf, wanted]
  refine ⟨updates, deletes, replacesRemoved, ?_, replacesMoved, ?_, removesMoved, ?_⟩
  · obtain ⟨_, _, coherent⟩ := onRemoved.2.1 wanted replaces updates replacesRemoved
    exact fun kept => absent (coherent.1 kept).1
  · obtain ⟨old, recorded, coherent⟩ := onMoved.2.1 wanted replaces updates replacesMoved
    intro kept
    have covered := (coherent.1 kept).2 current present (.label "y") joined
    exact (known recorded ▸ covered).elim unread unwanted
  · obtain ⟨old, recorded, coherent⟩ := onMoved.2.2.1 "a" removes deletes removesMoved
    intro kept
    have covered := coherent.1 kept current present (.label "y") joined
    exact unread (known recorded ▸ covered)

end Deployment

end DeviceCatalog
