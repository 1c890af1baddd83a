import DeviceCatalog.Proofs.Deployment
import DeviceCatalog.Proofs.Directory.Confinement

/-!
# Directories that share nothing but the substrate

Directories whose layouts are apart can work over one key space as if each had one of its own. The
run of all of them together is compared with one run for each directory, in which only its own calls
are made: a call results in the same in both, and the key space of the common run falls into the key
spaces of the separate ones.
-/

namespace DeviceCatalog

namespace Deployment

open Layout (OwnedBy)

variable {source : Type} {layouts : List Layout} {index other : Nat}
variable {together alone secluded : Deployment source}

/-- The run of all directories and the run of one of them: they agree on this directory and on its
keys, nothing is set up to fail in either, and the run of the one directory has the image of a catalog
and no other keys. -/
structure Secludes (layouts : List Layout) (index : Nat) (together alone : Deployment source) :
    Prop where
  assigned : together.stations.map Station.layout = layouts
  quiet : together.link.Quiet
  settled : alone.link.Quiet
  station : alone.stations[index]? = together.stations[index]?
  mirrored : ∀ layout, layouts[index]? = some layout →
    ∃ catalog, Mirrors layout alone.link.memory.space catalog
  inside : ∀ key : String, OwnedBy layouts index key →
    together.link.memory.space[key]? = alone.link.memory.space[key]?
  outside : ∀ key : String, ¬ OwnedBy layouts index key → alone.link.memory.space[key]? = none

theorem secludes_start (stations : List (Station source)) (index : Nat) :
    Secludes (stations.map Station.layout) index (start stations) (start stations) where
  assigned := rfl
  quiet := Link.quiet_empty
  settled := Link.quiet_empty
  station := rfl
  mirrored := fun layout _ => ⟨∅, Mirrors.empty layout⟩
  inside := fun _ _ => rfl
  outside := fun _ _ => Std.ExtTreeMap.getElem?_empty

theorem map_layout_set {stations : List (Station source)} {station : Station source}
    (present : stations[index]? = some station) (clock : source) :
    (stations.set index { station with clock := clock }).map Station.layout =
      stations.map Station.layout := by
  refine List.ext_getElem? fun place => ?_
  rw [List.map_set, List.getElem?_set]
  split
  next same =>
    subst same
    obtain ⟨within, rfl⟩ := List.getElem?_eq_some_iff.1 present
    simp [within]
  next => rfl

namespace Secludes

theorem layout_eq (secludes : Secludes layouts index together alone) {place : Nat}
    {station : Station source} (present : together.stations[place]? = some station) :
    layouts[place]? = some station.layout := by
  rw [← secludes.assigned, List.getElem?_map, present]
  rfl

variable [Clock source]

/-- A call of the directory, carried out in both runs. -/
theorem agrees (secludes : Secludes layouts index together alone) {station : Station source}
    (present : together.stations[index]? = some station) (request : Directory.Request) :
    Script.Agrees station.layout.Owns together.link.memory.space
      ((request.action station.layout).run.evaluate together.link.memory.space station.clock)
      ((request.action station.layout).run.evaluate alone.link.memory.space station.clock) := by
  have listed := secludes.layout_eq present
  obtain ⟨catalog, mirrors⟩ := secludes.mirrored _ listed
  refine (mirrors.confined_action request station.clock).agrees fun key mine => ?_
  exact secludes.inside key ((Layout.ownedBy_iff listed).2 mine)

theorem outcome_eq (secludes : Secludes layouts index together alone)
    (request : Directory.Request) :
    together.outcome index request = alone.outcome index request := by
  rw [outcome_of_quiet secludes.quiet, outcome_of_quiet secludes.settled, secludes.station]
  cases present : together.stations[index]? with
  | none => rfl
  | some station => exact congrArg some (secludes.agrees present request).outcome

/-- A call of the directory takes both runs on. -/
theorem advance_own (secludes : Secludes layouts index together alone)
    (request : Directory.Request) :
    Secludes layouts index (together.advance (.call index request))
      (alone.advance (.call index request)) := by
  cases present : together.stations[index]? with
  | none =>
      rw [advance_of_absent present, advance_of_absent (secludes.station.trans present)]
      exact secludes
  | some station =>
      have listed := secludes.layout_eq present
      have agrees := secludes.agrees present request
      obtain ⟨catalog, mirrors⟩ := secludes.mirrored _ listed
      have follows := (mirrors.follows_serve station.clock request).2
      have confined := mirrors.confined_action request station.clock
      have kept := (confined.agrees fun _ _ => rfl).outside
      obtain ⟨quiet, space, stations⟩ := advance_of_quiet secludes.quiet present request
      obtain ⟨settled, aloneSpace, aloneStations⟩ :=
        advance_of_quiet secludes.settled (secludes.station.trans present) request
      refine ⟨?_, quiet, settled, ?_, fun layout same => ?_, fun key mine => ?_, fun key foreign => ?_⟩
      · rw [stations, map_layout_set present, secludes.assigned]
      · rw [stations, aloneStations, agrees.clock, List.getElem?_set_self', List.getElem?_set_self',
          secludes.station]
      · rw [listed] at same
        obtain rfl := Option.some.inj same
        exact ⟨_, aloneSpace ▸ follows⟩
      · rw [space, aloneSpace]
        exact agrees.inside key ((Layout.ownedBy_iff listed).1 mine)
      · rw [aloneSpace, kept key fun mine => foreign ((Layout.ownedBy_iff listed).2 mine)]
        exact secludes.outside key foreign

/-- A call of another directory changes no key of this one. -/
theorem advance_other (apart : layouts.Pairwise Layout.Apart)
    (secludes : Secludes layouts index together alone)
    (caller : Secludes layouts other together secluded) (different : other ≠ index)
    (request : Directory.Request) :
    Secludes layouts index (together.advance (.call other request)) alone := by
  cases present : together.stations[other]? with
  | none =>
      rw [advance_of_absent present]
      exact secludes
  | some station =>
      have agrees := caller.agrees present request
      obtain ⟨quiet, space, stations⟩ := advance_of_quiet secludes.quiet present request
      refine ⟨?_, quiet, secludes.settled, ?_, secludes.mirrored, fun key mine => ?_,
        secludes.outside⟩
      · rw [stations, map_layout_set present, secludes.assigned]
      · rw [stations, List.getElem?_set_ne different, secludes.station]
      · rw [space, agrees.outside key fun foreign => ?_]
        · exact secludes.inside key mine
        · have theirs := (Layout.ownedBy_iff (caller.layout_eq present)).2 foreign
          exact different (Layout.eq_of_ownedBy apart theirs mine)

end Secludes

/-! ## Runs -/

/-- The calls of one directory among those of several. -/
def callsOf (index : Nat) (calls : List (Nat × Directory.Request)) :
    List (Nat × Directory.Request) :=
  calls.filter fun call => call.1 = index

/-- The run of all directories against one run for each: every directory has its own part of the common
key space, and there is nothing else. -/
structure Divides (layouts : List Layout) (together : Deployment source)
    (alone : Nat → Deployment source) : Prop where
  secludes : ∀ index, Secludes layouts index together (alone index)
  covered : ∀ key : String, (∀ index, ¬ OwnedBy layouts index key) →
    together.link.memory.space[key]? = none

variable {separate : Nat → Deployment source}

theorem divides_start (stations : List (Station source)) :
    Divides (stations.map Station.layout) (start stations) fun _ => start stations :=
  ⟨secludes_start stations, fun _ _ => Std.ExtTreeMap.getElem?_empty⟩

theorem Divides.getElem?_eq_some_iff (divides : Divides layouts together separate) {key : String}
    {entry : Entry} :
    together.link.memory.space[key]? = some entry ↔
      ∃ index, (separate index).link.memory.space[key]? = some entry := by
  constructor
  · intro present
    by_cases owned : ∃ index, OwnedBy layouts index key
    · obtain ⟨index, mine⟩ := owned
      exact ⟨index, (divides.secludes index).inside key mine ▸ present⟩
    · rw [divides.covered key (not_exists.1 owned)] at present
      cases present
  · rintro ⟨index, present⟩
    by_cases mine : OwnedBy layouts index key
    · exact (divides.secludes index).inside key mine ▸ present
    · rw [(divides.secludes index).outside key mine] at present
      cases present

theorem Divides.eq_of_mem (divides : Divides layouts together separate)
    (apart : layouts.Pairwise Layout.Apart) {key : String} {first second : Nat}
    (inFirst : key ∈ (separate first).link.memory.space)
    (inSecond : key ∈ (separate second).link.memory.space) : first = second := by
  have owned (index : Nat) (present : key ∈ (separate index).link.memory.space) :
      OwnedBy layouts index key := by
    by_contra foreign
    have absent := (divides.secludes index).outside key foreign
    rw [Std.ExtTreeMap.mem_iff_isSome_getElem?, absent] at present
    cases present
  exact Layout.eq_of_ownedBy apart (owned first inFirst) (owned second inSecond)

variable [Clock source]

theorem Divides.advance (divides : Divides layouts together separate)
    (apart : layouts.Pairwise Layout.Apart) (call : Nat × Directory.Request) :
    Divides layouts (together.advance (.call call.1 call.2))
      fun index => (separate index).afterCalls (callsOf index [call]) := by
  obtain ⟨caller, request⟩ := call
  have theirs := divides.secludes caller
  refine ⟨fun index => ?_, fun key foreign => ?_⟩
  · by_cases own : caller = index
    · subst own
      have only : callsOf caller [(caller, request)] = [(caller, request)] := by simp [callsOf]
      rw [only]
      exact theirs.advance_own request
    · have none : callsOf index [(caller, request)] = [] := by simp [callsOf, own]
      rw [none]
      exact (divides.secludes index).advance_other apart theirs own request
  · cases present : together.stations[caller]? with
    | none =>
        rw [advance_of_absent present]
        exact divides.covered key foreign
    | some station =>
        have listed := theirs.layout_eq present
        rw [(advance_of_quiet theirs.quiet present request).2.1,
          (theirs.agrees present request).outside key
            fun mine => foreign caller ((Layout.ownedBy_iff listed).2 mine)]
        exact divides.covered key foreign

theorem Divides.afterCalls (divides : Divides layouts together separate)
    (apart : layouts.Pairwise Layout.Apart) (calls : List (Nat × Directory.Request)) :
    Divides layouts (together.afterCalls calls)
      fun index => (separate index).afterCalls (callsOf index calls) := by
  -- The runs move on at different calls: each of the separate ones at its own only.
  induction calls generalizing together separate with
  | nil => exact divides
  | cons call rest ih =>
      have stepwise (index : Nat) : (separate index).afterCalls (callsOf index (call :: rest)) =
          ((separate index).afterCalls (callsOf index [call])).afterCalls (callsOf index rest) := by
        by_cases own : call.1 = index
        · simp [callsOf, own, Deployment.afterCalls, after]
        · simp [callsOf, own, Deployment.afterCalls, after]
      simp only [stepwise]
      exact ih (divides.advance apart call)

/-- Directories over one substrate whose layouts are apart do not notice each other. After any calls
of all of them, any further call results in the same as after the calls of its own directory alone,
and the key space is the disjoint union of the key spaces that the calls of each directory alone would
have left. -/
theorem afterCalls_of_apart (stations : List (Station source))
    (apart : (stations.map Station.layout).Pairwise Layout.Apart)
    (calls : List (Nat × Directory.Request)) :
    let together := (start stations).afterCalls calls
    let alone index := (start stations).afterCalls (callsOf index calls)
    (∀ index request, together.outcome index request = (alone index).outcome index request) ∧
      (∀ (key : String) (entry : Entry), together.link.memory.space[key]? = some entry ↔
        ∃ index, (alone index).link.memory.space[key]? = some entry) ∧
      ∀ (key : String) (first second : Nat), key ∈ (alone first).link.memory.space →
        key ∈ (alone second).link.memory.space → first = second := by
  intro together alone
  have divides := (divides_start stations).afterCalls apart calls
  refine ⟨fun index request => ?_, fun key entry => ?_, fun key first second => ?_⟩
  · exact (divides.secludes index).outcome_eq request
  · exact divides.getElem?_eq_some_iff
  · exact divides.eq_of_mem apart

/-- The collection of the second directory is a beginning of that of the first one. Both store a device
with the same id, and the second one knows nothing of the name that the first one stores. -/
theorem afterCalls_of_apart_nested :
    let stations : List (Station ManualClock) :=
      [⟨.standard, ⟨5, 1⟩⟩, ⟨⟨"md|d", "v/"⟩, ⟨9, 2⟩⟩]
    let calls := [(0, Directory.Request.create (.plain "a" "b" "s" "p")),
      (1, .create (.plain "a" "c" "s" "p"))]
    let together := (start stations).afterCalls calls
    (stations.map Station.layout).Pairwise Layout.Apart ∧
      together.outcome 0 (.existsName "b") = some (.ok true) ∧
      together.outcome 1 (.existsName "b") = some (.ok false) := by
  intro stations calls together
  have apart : (stations.map Station.layout).Pairwise Layout.Apart :=
    List.pairwise_pair.2 ⟨by decide, by decide, by decide⟩
  obtain ⟨outcomes, _⟩ := afterCalls_of_apart stations apart calls
  refine ⟨apart, ?_, ?_⟩
  · exact (outcomes 0 (.existsName "b")).trans rfl
  · exact (outcomes 1 (.existsName "b")).trans rfl

end Deployment

end DeviceCatalog
