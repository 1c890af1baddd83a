import DeviceCatalog.Deployment
import DeviceCatalog.Proofs.Directory.Chronicle
import DeviceCatalog.Proofs.Directory.Refinement

/-!
# Runs of a deployment

Directories that share a layout and a substrate, and what becomes of them over any sequence of calls
and failures. The key space stays the image of a catalog whatever fails. As long as nothing fails, the
catalog and the clocks follow the meaning of the calls, and so do the results.
-/

namespace DeviceCatalog

/-- Something that happens to a deployment: a call, or something from outside. -/
inductive Event (source : Type) where
  | call (index : Nat) (request : Directory.Request)
  | setClock (index : Nat) (clock : source)
  | abortNext (reason : String)
  | setUnavailable (unavailable : Bool)
  | setBreakage (breakage : Option Breakage)

namespace Deployment

variable {source : Type}

/-- Directories with one layout over an empty substrate. -/
def startShared (layout : Layout) (clocks : List source) : Deployment source :=
  start (clocks.map (Station.mk layout))

/-- The directories share a layout, and the key space is the image of a catalog. -/
structure Sound (deployment : Deployment source) (layout : Layout) : Prop where
  shared : ∀ station ∈ deployment.stations, station.layout = layout
  mirrored : ∃ catalog, Mirrors layout deployment.link.memory.space catalog

variable {layout : Layout} {deployment : Deployment source}

theorem shared_set {stations : List (Station source)} {index : Nat} {station : Station source}
    (shared : ∀ other ∈ stations, other.layout = layout) (present : stations[index]? = some station)
    (clock : source) :
    ∀ other ∈ stations.set index { station with clock := clock }, other.layout = layout := by
  intro other listed
  rcases List.mem_or_eq_of_mem_set listed with old | new
  · exact shared other old
  · rw [new]
    exact shared station (List.mem_of_getElem? present)

theorem shared_startShared (layout : Layout) (clocks : List source) :
    ∀ station ∈ (startShared layout clocks).stations, station.layout = layout := by
  intro station listed
  obtain ⟨clock, _, rfl⟩ := List.mem_map.1 listed
  rfl

theorem sound_startShared (layout : Layout) (clocks : List source) :
    (startShared layout clocks).Sound layout :=
  ⟨shared_startShared layout clocks, ∅, Mirrors.empty layout⟩

/-- The deployment does what a registry says: nothing is set up to fail, the clocks are the same, and
the key space is the image of the catalog. -/
structure Follows (deployment : Deployment source) (layout : Layout) (registry : Registry source) :
    Prop where
  shared : ∀ station ∈ deployment.stations, station.layout = layout
  quiet : deployment.link.Quiet
  clocks : deployment.stations.map Station.clock = registry.clocks
  mirrors : Mirrors layout deployment.link.memory.space registry.catalog

theorem follows_startShared (layout : Layout) (clocks : List source) :
    (startShared layout clocks).Follows layout ⟨∅, clocks⟩ := by
  refine ⟨shared_startShared layout clocks, Link.quiet_empty, ?_, Mirrors.empty layout⟩
  simp [startShared, start, Function.comp_def]

variable {registry : Registry source}

theorem Follows.getElem?_clocks (follows : deployment.Follows layout registry) (index : Nat) :
    registry.clocks[index]? = deployment.stations[index]?.map Station.clock := by
  rw [← follows.clocks, List.getElem?_map]

/-! ## Events -/

variable [Clock source]

/-- Carries out a call at one station. -/
def call (deployment : Deployment source) (index : Nat) (request : Directory.Request) :
    Option (Except Error request.Answer × Deployment source) :=
  deployment.perform index fun layout => request.action layout

/-- What a call results in. -/
def outcome (deployment : Deployment source) (index : Nat) (request : Directory.Request) :
    Option (Except Error request.Answer) :=
  (deployment.call index request).map Prod.fst

/-- The deployment after an event; a call at a station that is not there does nothing. -/
def advance (deployment : Deployment source) : Event source → Deployment source
  | .call index request => ((deployment.call index request).map Prod.snd).getD deployment
  | .setClock index clock =>
      { deployment with
        stations := deployment.stations.modify index fun station => { station with clock := clock } }
  | .abortNext reason => { deployment with link.memory.abortNext := some reason }
  | .setUnavailable unavailable => { deployment with link.memory.unavailable := unavailable }
  | .setBreakage breakage => { deployment with link.breakage := breakage }

/-- The deployment after events in their order. -/
def after (deployment : Deployment source) (events : List (Event source)) : Deployment source :=
  events.foldl advance deployment

/-- No call takes the key space away from being the image of a catalog, whatever fails during the
call. -/
theorem Sound.call (sound : deployment.Sound layout) {index : Nat} {request : Directory.Request}
    {outcome : Except Error request.Answer} {later : Deployment source}
    (called : deployment.call index request = some (outcome, later)) : later.Sound layout := by
  obtain ⟨station, present, ran⟩ := Option.map_eq_some_iff.1 called
  obtain ⟨catalog, mirrors⟩ := sound.mirrored
  have own := sound.shared station (List.mem_of_getElem? present)
  have disciplined := Directory.Request.disciplined_action station.layout request
  cases ran
  refine ⟨shared_set sound.shared present _, ?_⟩
  rcases disciplined.run_cases deployment.link station.clock with ⟨_, _, kept⟩ | done
  · exact ⟨catalog, kept ▸ mirrors⟩
  · have follows := (mirrors.follows_serve station.clock request).2
    rw [← own] at follows ⊢
    rw [done] at follows
    exact ⟨_, follows⟩

theorem Sound.advance (sound : deployment.Sound layout) (event : Event source) :
    (deployment.advance event).Sound layout := by
  cases event with
  | call index request =>
      rw [Deployment.advance]
      cases called : deployment.call index request with
      | none => exact sound
      | some result => exact sound.call called
  | setClock index clock =>
      refine ⟨fun station listed => ?_, sound.mirrored⟩
      obtain ⟨place, within, rfl⟩ := List.mem_iff_getElem.1 listed
      have known := sound.shared _ (List.getElem_mem (by simpa [Deployment.advance] using within))
      simp only [Deployment.advance, List.getElem_modify]
      split <;> exact known
  | abortNext reason => exact ⟨sound.shared, sound.mirrored⟩
  | setUnavailable unavailable => exact ⟨sound.shared, sound.mirrored⟩
  | setBreakage breakage => exact ⟨sound.shared, sound.mirrored⟩

theorem Sound.after (sound : deployment.Sound layout) (events : List (Event source)) :
    (deployment.after events).Sound layout := by
  induction events generalizing deployment with
  | nil => exact sound
  | cons event rest ih => exact ih (sound.advance event)

/-- The deployment after calls in their order. -/
def afterCalls (deployment : Deployment source) (calls : List (Nat × Directory.Request)) :
    Deployment source :=
  deployment.after (calls.map fun call => .call call.1 call.2)

theorem advance_of_absent {index : Nat} (absent : deployment.stations[index]? = none)
    (request : Directory.Request) : deployment.advance (.call index request) = deployment := by
  rw [advance, Deployment.call, perform, absent]
  rfl

/-- Without failures a call leaves the key space and the clock that its evaluation leaves. -/
theorem advance_of_quiet (quiet : deployment.link.Quiet) {index : Nat} {station : Station source}
    (present : deployment.stations[index]? = some station) (request : Directory.Request) :
    let later := deployment.advance (.call index request)
    let evaluated :=
      (request.action station.layout).run.evaluate deployment.link.memory.space station.clock
    later.link.Quiet ∧ later.link.memory.space = evaluated.2.1 ∧
      later.stations = deployment.stations.set index { station with clock := evaluated.2.2 } := by
  obtain ⟨unbroken, agree⟩ := (request.action station.layout).run.run_of_quiet quiet station.clock
  rw [advance, Deployment.call, perform, present, ← agree]
  exact ⟨unbroken, rfl, rfl⟩

/-- Without failures a call results in what its evaluation results in. -/
theorem outcome_of_quiet (quiet : deployment.link.Quiet) (index : Nat)
    (request : Directory.Request) :
    deployment.outcome index request = deployment.stations[index]?.map fun station =>
      ((request.action station.layout).run.evaluate deployment.link.memory.space station.clock).1 := by
  rw [outcome, Deployment.call, perform, Option.map_map]
  refine congrArg (Option.map · _) (funext fun station => ?_)
  rw [← ((request.action station.layout).run.run_of_quiet quiet station.clock).2]
  rfl

/-- A call takes the deployment and the registry on together. -/
theorem Follows.advance (follows : deployment.Follows layout registry)
    (call : Nat × Directory.Request) :
    (deployment.advance (.call call.1 call.2)).Follows layout (registry.advance layout call) := by
  obtain ⟨index, request⟩ := call
  rw [Registry.advance, Registry.call, follows.getElem?_clocks]
  cases present : deployment.stations[index]? with
  | none =>
      rw [advance_of_absent present]
      exact follows
  | some station =>
      have own := follows.shared station (List.mem_of_getElem? present)
      obtain ⟨quiet, space, stations⟩ := advance_of_quiet follows.quiet present request
      obtain ⟨clock, mirrors⟩ := follows.mirrors.follows_serve station.clock request
      rw [← own] at clock mirrors
      refine ⟨?_, quiet, ?_, ?_⟩
      · rw [stations]
        exact shared_set follows.shared present _
      · rw [stations, ← own]
        exact List.map_set.trans (congrArg₂ (List.set · index ·) follows.clocks clock)
      · rw [space, ← own]
        exact mirrors

theorem Follows.afterCalls (follows : deployment.Follows layout registry)
    (calls : List (Nat × Directory.Request)) :
    (deployment.afterCalls calls).Follows layout (registry.afterCalls layout calls) := by
  induction calls generalizing deployment registry with
  | nil => exact follows
  | cons call rest ih => exact ih (follows.advance call)

/-- Where a call results in what it means, the deployment answers as the registry does. -/
theorem Follows.outcome_eq (follows : deployment.Follows layout registry) (index : Nat)
    (request : Directory.Request)
    (separated : request.looksForEmptyId = true → layout.separator ≠ "")
    (small : request.isPage = true → registry.catalog.size < 2 ^ 63) :
    deployment.outcome index request = registry.outcome layout index request := by
  rw [outcome_of_quiet follows.quiet, Registry.outcome, Registry.call, follows.getElem?_clocks]
  cases present : deployment.stations[index]? with
  | none => rfl
  | some station =>
      have own := follows.shared station (List.mem_of_getElem? present)
      have meant := follows.mirrors.outcome_serve station.clock request separated small
      rw [← own] at meant ⊢
      exact congrArg some meant

/-- Directories with a separator do what their calls mean for one catalog and a clock each: after any
calls the key space is the image of the catalog, the clocks have come as far, and any further call
results in what it means. For a page the catalog has to fit into memory. -/
theorem refines_registry (layout : Layout) (separated : layout.separator ≠ "")
    (clocks : List source) (calls : List (Nat × Directory.Request)) :
    let deployment := (startShared layout clocks).afterCalls calls
    let registry := (Registry.mk ∅ clocks).afterCalls layout calls
    deployment.Follows layout registry ∧
      ∀ index request, (request.isPage = true → registry.catalog.size < 2 ^ 63) →
        deployment.outcome index request = registry.outcome layout index request := by
  have follows := (follows_startShared layout clocks).afterCalls calls
  exact ⟨follows, fun index request small =>
    follows.outcome_eq index request (fun _ => separated) small⟩

theorem refines_registry_standard :
    let calls := [(0, Directory.Request.create (.plain "a" "b" "s" "p"))]
    let deployment := (startShared .standard [(⟨5, 1⟩ : ManualClock)]).afterCalls calls
    Layout.standard.separator ≠ "" ∧
      deployment.outcome 0 (.existsId "a") = some (.ok true) := by
  intro calls deployment
  have separated : Layout.standard.separator ≠ "" := by decide
  refine ⟨separated, ?_⟩
  have refines := refines_registry .standard separated [(⟨5, 1⟩ : ManualClock)] calls
  rw [refines.2 0 (.existsId "a") nofun]
  rfl

/-! ## Pages -/

/-- A call that finds its clock results in what it means. -/
theorem Follows.outcome_of_present (follows : deployment.Follows layout registry) {index : Nat}
    (present : index < registry.clocks.length) (request : Directory.Request)
    (named : request.looksForEmptyId = false) (small : registry.catalog.size < 2 ^ 63) :
    deployment.outcome index request =
      some (registry.catalog.serve layout registry.clocks[index] request).1 := by
  rw [follows.outcome_eq index request (fun search => by rw [named] at search; cases search)
    (fun _ => small), Registry.outcome, Registry.call, List.getElem?_eq_getElem present]
  rfl

/-- After any calls, a page is a page of one list of the devices that are stored, and a count is the
length of the list. All devices are listed by key, those of a group or with some labels by the time
of the last write. The catalog has to fit into memory, as every collection does. -/
theorem pages_afterCalls (layout : Layout) (clocks : List source)
    (calls : List (Nat × Directory.Request)) {index : Nat} (present : index < clocks.length) :
    let deployment := (startShared layout clocks).afterCalls calls
    let catalog := ((Registry.mk ∅ clocks).afterCalls layout calls).catalog
    catalog.size < 2 ^ 63 →
      Mirrors layout deployment.link.memory.space catalog ∧
      (∃ listing, catalog.Lists layout (fun _ => True) (fun _ => 0) listing ∧
        (∀ offset limit, deployment.outcome index (.allDevices offset limit) =
          some (Window.page offset limit listing)) ∧
        (∀ offset limit, deployment.outcome index (.devicesByLabels offset limit []) =
          some (Window.page offset limit listing)) ∧
        deployment.outcome index .count = some (.ok listing.length)) ∧
      (∀ service, ∃ listing, catalog.Chronicles layout (·.service = service) listing ∧
        (∀ offset limit, deployment.outcome index (.devicesByService offset limit service) =
          some (Window.page offset limit listing)) ∧
        deployment.outcome index (.countByService service) = some (.ok listing.length)) ∧
      (∀ profile, ∃ listing, catalog.Chronicles layout (·.profile = profile) listing ∧
        (∀ offset limit, deployment.outcome index (.devicesByProfile offset limit profile) =
          some (Window.page offset limit listing)) ∧
        deployment.outcome index (.countByProfile profile) = some (.ok listing.length)) ∧
      (∀ labels, labels ≠ [] → ∃ listing,
        catalog.Chronicles layout (fun device => ∀ label ∈ labels, label ∈ device.labels) listing ∧
        ∀ offset limit, deployment.outcome index (.devicesByLabels offset limit labels) =
          some (Window.page offset limit listing)) := by
  intro deployment catalog small
  have follows := (follows_startShared layout clocks).afterCalls calls
  have valid := follows.mirrors.valid
  have answers := follows.outcome_of_present
    (by rw [Registry.length_clocks_afterCalls]; exact present)
  refine ⟨follows.mirrors, ?all, fun service => ?service, fun profile => ?profile,
    fun labels some => ?labels⟩
  case all =>
    refine ⟨_, Catalog.lists_all valid, fun offset limit => ?_, fun offset limit => ?_, ?_⟩
    · exact answers (.allDevices offset limit) rfl small
    · exact answers (.devicesByLabels offset limit []) rfl small
    · exact answers .count rfl small
  case service =>
    refine ⟨_, Catalog.chronicles_listing valid, fun offset limit => ?_, ?_⟩
    · exact answers (.devicesByService offset limit service) rfl small
    · exact answers (.countByService service) rfl small
  case profile =>
    refine ⟨_, Catalog.chronicles_listing valid, fun offset limit => ?_, ?_⟩
    · exact answers (.devicesByProfile offset limit profile) rfl small
    · exact answers (.countByProfile profile) rfl small
  case labels =>
    refine ⟨_, Catalog.chronicles_listing valid, fun offset limit => ?_⟩
    have answer := answers (.devicesByLabels offset limit labels) rfl small
    rw [Catalog.serve, Catalog.labelled, if_neg some] at answer
    exact answer

theorem pages_afterCalls_standard :
    let device := { Device.plain "a" "b" "s" "p" with labels := ["l", "m"] }
    let calls := [(0, Directory.Request.create device)]
    let clocks := [(⟨5, 1⟩ : ManualClock)]
    let deployment := (startShared .standard clocks).afterCalls calls
    let catalog := ((Registry.mk ∅ clocks).afterCalls .standard calls).catalog
    0 < clocks.length ∧ catalog.size < 2 ^ 63 ∧ ["m", "l", "m"] ≠ [] ∧
      (∃ listing, catalog.Chronicles .standard (·.service = "s") listing ∧
        deployment.outcome 0 (.devicesByService 0 (-1) "s") = some (.ok listing)) ∧
      (∃ listing,
        catalog.Chronicles .standard (fun device => ∀ label ∈ ["m", "l", "m"], label ∈ device.labels)
          listing ∧
        deployment.outcome 0 (.devicesByLabels 0 (-1) ["m", "l", "m"]) = some (.ok listing)) := by
  intro device calls clocks deployment catalog
  have present : 0 < clocks.length := by decide
  have small : catalog.size < 2 ^ 63 := by decide
  have some : ["m", "l", "m"] ≠ [] := by decide
  obtain ⟨_, _, services, _, labels⟩ := pages_afterCalls .standard clocks calls present small
  refine ⟨present, small, some, ?_, ?_⟩
  · obtain ⟨listing, chronicles, pages, _⟩ := services "s"
    exact ⟨listing, chronicles, pages 0 (-1)⟩
  · obtain ⟨listing, chronicles, pages⟩ := labels ["m", "l", "m"] some
    exact ⟨listing, chronicles, pages 0 (-1)⟩

end Deployment

end DeviceCatalog
