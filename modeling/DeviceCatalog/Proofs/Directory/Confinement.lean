import DeviceCatalog.Proofs.Directory.Simulation
import DeviceCatalog.Proofs.Layout.Territory
import DeviceCatalog.Proofs.SortedSet
import DeviceCatalog.Proofs.Substrate.Confinement

/-!
# Calls keep to the keys of their layout

On the image of a catalog a call asks for no keys and changes no keys but those that its layout owns.
Most of these keys are composed from the arguments of the call; the others are read from an index or
from the name table, and the image of a catalog leads to record keys only.
-/

namespace DeviceCatalog

namespace Directory

variable {layout : Layout} {device old new : Device}

/-! ## The keys of a batch -/

theorem owns_insertion : ∀ command ∈ insertion layout device, layout.Owns command.key :=
  forall_insertion (Layout.owns_recordKey device.id) Layout.owns_idIndex Layout.owns_nameIndex
    Layout.owns_groupIndex

theorem owns_removal : ∀ command ∈ removal layout device, layout.Owns command.key :=
  forall_removal (Layout.owns_recordKey device.id) Layout.owns_idIndex Layout.owns_nameIndex
    Layout.owns_groupIndex

theorem owns_replacement : ∀ command ∈ replacement layout old new, layout.Owns command.key :=
  forall_replacement (Layout.owns_recordKey new.id) Layout.owns_nameIndex Layout.owns_nameIndex
    Layout.owns_groupIndex Layout.owns_groupIndex

/-! ## Pieces of an action -/

namespace Action

variable {result next source : Type} [Clock source] {space : KeySpace} {clock : source}
variable {owned : String → Prop}

theorem confined_ofExcept (outcome : Except Error result) :
    (Action.ofExcept outcome).run.Confined owned space clock := trivial

theorem confined_ask (description : String) {query : Query} (asked : ∀ key ∈ query.keys, owned key) :
    (Action.ask description query).run.Confined owned space clock := ⟨asked, trivial⟩

theorem confined_ask_key (description : String) {query : Query} {key : String}
    (single : query.keys = [key]) (mine : owned key) :
    (Action.ask description query).run.Confined owned space clock :=
  confined_ask description (by simpa [single] using mine)

theorem confined_commit (description : String) {batch : Batch}
    (queued : ∀ command ∈ batch, owned command.key) :
    (Action.commit description batch).run.Confined owned space clock :=
  ⟨queued, fun _ _ => trivial, fun _ _ => trivial⟩

/-- What follows on something read starts on the same key space, with the value that was read. -/
theorem Reading.confined_bind {action : Action result} {continuation : result → Action next}
    (reading : Reading action.run) (first : action.run.Confined owned space clock)
    (second : ∀ value, (action.run.evaluate space clock).1 = .ok value →
      (continuation value).run.Confined owned space clock) :
    (action >>= continuation).run.Confined owned space clock := by
  rw [ExceptT.run_bind]
  refine Script.confined_bind first fun outcome after later evaluated => ?_
  have kept := reading.evaluate space clock
  rw [evaluated] at kept
  cases kept
  cases outcome with
  | error failure => trivial
  | ok value => exact second value (by rw [evaluated])

theorem confined_bind_of_done {continuation : result → Action next} (outcome : Except Error result)
    (second : ∀ value, outcome = .ok value → (continuation value).run.Confined owned space clock) :
    (Action.ofExcept outcome >>= continuation).run.Confined owned space clock :=
  (Reading.ofExcept outcome).confined_bind (confined_ofExcept outcome) second

/-- The end of a write that stores a device. -/
theorem confined_store {description : String} {stamped : Int64 → Device} {batch : Device → Batch}
    (queued : ∀ now, ∀ command ∈ batch (stamped now), owned command.key) :
    (do
      let now ← Action.readClock
      Action.commit description (batch (stamped now))
      return stamped now : Action Device).run.Confined owned space clock :=
  ⟨queued _, fun _ _ => trivial, fun _ _ => trivial⟩

theorem answer_of_evaluate_ask {description : String} {query : Query} {answer : query.Answer}
    (evaluated : ((Action.ask description query).run.evaluate space clock).1 = .ok answer) :
    space.answer query = .ok answer := by
  cases told : space.answer query with
  | ok found =>
      rw [evaluate_ask told] at evaluated
      exact congrArg Except.ok (Except.ok.inj evaluated)
  | error failure =>
      rw [evaluate_ask_of_error told] at evaluated
      cases evaluated

end Action

end Directory

namespace Mirrors

open Directory Action

variable {layout : Layout} {space : KeySpace} {catalog : Catalog} {source : Type} [Clock source]
variable {keep : Device → Prop} {score : Device → Score} {key : String}

/-! ## What the indexes lead to -/

theorem owns_member {set : SortedSet} {member : String}
    (ranks : Entry.Ranks space[key]? (catalog.Scored layout keep score))
    (read : space.sortedSet key = .ok set) (listed : member ∈ set.members) :
    layout.Owns member := by
  obtain ⟨found, same, scores⟩ := ranks.sortedSet
  cases read.symm.trans same
  obtain ⟨rank, scored⟩ := Option.isSome_iff_exists.1 (SortedSet.mem_members.1 listed)
  obtain ⟨device, _, _, rfl, _⟩ := (scores member rank).1 scored
  exact Layout.owns_recordKey device.id

theorem owns_revRange {first last : Int64} {keys : List String}
    (ranks : Entry.Ranks space[key]? (catalog.Scored layout keep score))
    (answered : space.answer (.zrevrange key first last) = .ok keys) :
    ∀ member ∈ keys, layout.Owns member := by
  intro member listed
  rw [KeySpace.answer] at answered
  cases read : space.sortedSet key with
  | error failure =>
      rw [read] at answered
      cases answered
  | ok set =>
      rw [read] at answered
      cases answered
      exact owns_member ranks read (SortedSet.mem_of_mem_revRange listed)

theorem owns_named (mirrors : Mirrors layout space catalog) {name : String}
    (answered : space.answer (.hget layout.nameIndex name) = .ok (some key)) : layout.Owns key := by
  obtain ⟨fields, read, cells⟩ := mirrors.names.hash
  rw [KeySpace.answer, read] at answered
  obtain ⟨device, _, _, rfl⟩ := (cells name key).1 (Except.ok.inj answered)
  exact Layout.owns_recordKey device.id

/-! ## Reading -/

theorem confined_existsId (id : String) (clock : source) :
    (existsId layout id).run.Confined layout.Owns space clock :=
  (Reading.query _ _).confined_bind (confined_ask_key _ rfl Layout.owns_idIndex) fun _ _ => trivial

theorem confined_existsName (name : String) (clock : source) :
    (existsName layout name).run.Confined layout.Owns space clock :=
  confined_ask_key _ rfl Layout.owns_nameIndex

theorem confined_deviceAt? (mine : layout.Owns key) (clock : source) :
    (deviceAt? key).run.Confined layout.Owns space clock := by
  refine (Reading.query _ _).confined_bind (confined_ask_key _ rfl mine) fun stored _ => ?_
  cases stored with
  | none => trivial
  | some bytes => exact confined_ofExcept _

theorem confined_deviceById (id : String) (clock : source) :
    (deviceById layout id).run.Confined layout.Owns space clock := by
  rw [deviceById]
  split
  next => trivial
  next =>
    refine (reading_deviceAt? _).confined_bind
      (confined_deviceAt? (Layout.owns_recordKey id) clock) fun found _ => ?_
    cases found with
    | none => trivial
    | some device => trivial

theorem confined_deviceByName (mirrors : Mirrors layout space catalog) (name : String)
    (clock : source) : (deviceByName layout name).run.Confined layout.Owns space clock := by
  refine (Reading.query _ _).confined_bind (confined_ask_key _ rfl Layout.owns_nameIndex)
    fun found evaluated => ?_
  cases found with
  | none => trivial
  | some key =>
      have mine := mirrors.owns_named (answer_of_evaluate_ask evaluated)
      refine (reading_deviceAt? key).confined_bind (confined_deviceAt? mine clock) fun device _ => ?_
      cases device with
      | none => trivial
      | some device => trivial

theorem confined_fetch {keys : List String} (mine : ∀ key ∈ keys, layout.Owns key)
    (clock : source) : (fetch keys).run.Confined layout.Owns space clock := by
  rw [fetch]
  split
  next => trivial
  next =>
    exact (Reading.query _ _).confined_bind (confined_ask _ mine) fun _ _ => confined_ofExcept _

theorem confined_page (ranks : Entry.Ranks space[key]? (catalog.Scored layout keep score))
    (mine : layout.Owns key) (offset : UInt64) (limit : Int64) (clock : source) :
    (page key offset limit).run.Confined layout.Owns space clock := by
  refine confined_bind_of_done _ fun window _ => ?_
  cases window with
  | none => trivial
  | some window =>
      refine (Reading.query _ _).confined_bind (confined_ask_key _ rfl mine) fun keys evaluated => ?_
      exact confined_fetch (owns_revRange ranks (answer_of_evaluate_ask evaluated)) clock

/-! ## Labels -/

/-- Intersecting with the groups of labels finds none but keys that were given. -/
theorem mem_of_evaluate_keepLabelled {keys labels kept : List String} {clock : source}
    (evaluated : ((keepLabelled layout keys labels).run.evaluate space clock).1 = .ok kept) :
    ∀ key ∈ kept, key ∈ keys := by
  induction labels generalizing keys with
  | nil =>
      cases evaluated
      exact fun _ => id
  | cons label rest ih =>
      rw [keepLabelled] at evaluated
      split at evaluated
      next =>
        cases evaluated
        exact fun _ => id
      next =>
        cases answered : space.answer (.zrange (layout.labelIndex label) 0 (-1)) with
        | error failure =>
            rw [evaluate_bind_of_error (evaluate_ask_of_error answered)] at evaluated
            cases evaluated
        | ok group =>
            rw [evaluate_bind_of_ok (evaluate_ask answered)] at evaluated
            exact fun key listed => List.mem_of_mem_filter (ih evaluated key listed)

theorem confined_keepLabelled (keys labels : List String) (clock : source) :
    (keepLabelled layout keys labels).run.Confined layout.Owns space clock := by
  induction labels generalizing keys with
  | nil => trivial
  | cons label rest ih =>
      rw [keepLabelled]
      split
      next => trivial
      next =>
        have mine : layout.Owns (layout.labelIndex label) := Layout.owns_groupIndex (.label label)
        exact (Reading.query _ _).confined_bind (confined_ask_key _ rfl mine) fun _ _ => ih _

theorem confined_devicesByLabels (mirrors : Mirrors layout space catalog) (offset : UInt64)
    (limit : Int64) (labels : List String) (clock : source) :
    (devicesByLabels layout offset limit labels).run.Confined layout.Owns space clock := by
  rw [devicesByLabels]
  split
  next => exact confined_page mirrors.ids Layout.owns_idIndex offset limit clock
  next label _ =>
    exact confined_page (mirrors.groups (.label label)) (Layout.owns_groupIndex (.label label))
      offset limit clock
  next first rest _ _ =>
    refine confined_bind_of_done _ fun window _ => ?_
    cases window with
    | none => trivial
    | some window =>
        have mine : layout.Owns (layout.labelIndex first) := Layout.owns_groupIndex (.label first)
        refine (Reading.query _ _).confined_bind (confined_ask_key _ rfl mine) fun keys evaluated => ?_
        have listed := owns_revRange (mirrors.groups (.label first)) (answer_of_evaluate_ask evaluated)
        refine (reading_keepLabelled layout rest keys).confined_bind
          (confined_keepLabelled keys rest clock) fun kept intersected => ?_
        -- What is fetched is a part of the first group, and its members are record keys.
        refine confined_fetch (fun key covered => listed key ?_) clock
        exact mem_of_evaluate_keepLabelled intersected key (Window.mem_of_mem_slice covered)

/-! ## Writing -/

theorem confined_create (device : Device) (clock : source) :
    (create layout device).run.Confined layout.Owns space clock := by
  refine confined_bind_of_done _ fun _ _ => ?_
  refine (reading_existsId layout _).confined_bind (confined_existsId _ clock) fun taken _ => ?_
  cases taken with
  | true => trivial
  | false =>
      refine (reading_existsName layout _).confined_bind (confined_existsName _ clock)
        fun borne _ => ?_
      cases borne with
      | true => trivial
      | false => exact confined_store fun _ => owns_insertion

theorem confined_update (device : Device) (clock : source) :
    (update layout device).run.Confined layout.Owns space clock := by
  refine confined_bind_of_done _ fun _ _ => ?_
  refine (reading_deviceById layout _).confined_bind (confined_deviceById _ clock) fun old _ => ?_
  by_cases renamed : old.name ≠ device.name
  · rw [if_pos renamed]
    refine (reading_existsName layout _).confined_bind (confined_existsName _ clock)
      fun borne _ => ?_
    cases borne with
    | true => trivial
    | false => exact confined_store fun _ => owns_replacement
  · rw [if_neg renamed]
    exact confined_store fun _ => owns_replacement

theorem confined_remove (device : Device) (clock : source) :
    (Directory.remove layout device).run.Confined layout.Owns space clock :=
  confined_commit _ owns_removal

/-- On the image of a catalog every call keeps to the keys of its layout. -/
theorem confined_action (mirrors : Mirrors layout space catalog) (request : Request)
    (clock : source) : (request.action layout).run.Confined layout.Owns space clock := by
  cases request with
  | create device => exact confined_create device clock
  | update device => exact confined_update device clock
  | deleteById id =>
      exact (reading_deviceById layout id).confined_bind (confined_deviceById id clock)
        fun device _ => confined_remove device clock
  | deleteByName name =>
      exact (reading_deviceByName layout name).confined_bind
        (mirrors.confined_deviceByName name clock) fun device _ => confined_remove device clock
  | deviceById id => exact confined_deviceById id clock
  | deviceByName name => exact mirrors.confined_deviceByName name clock
  | existsId id => exact confined_existsId id clock
  | existsName name => exact confined_existsName name clock
  | allDevices offset limit =>
      exact confined_page mirrors.ids Layout.owns_idIndex offset limit clock
  | devicesByService offset limit service =>
      exact confined_page (mirrors.groups (.service service))
        (Layout.owns_groupIndex (.service service)) offset limit clock
  | devicesByProfile offset limit profile =>
      exact confined_page (mirrors.groups (.profile profile))
        (Layout.owns_groupIndex (.profile profile)) offset limit clock
  | devicesByLabels offset limit labels =>
      exact mirrors.confined_devicesByLabels offset limit labels clock
  | count => exact confined_ask_key _ rfl Layout.owns_idIndex
  | countByService service =>
      exact confined_ask_key _ rfl (Layout.owns_groupIndex (.service service))
  | countByProfile profile =>
      exact confined_ask_key _ rfl (Layout.owns_groupIndex (.profile profile))

end Mirrors

end DeviceCatalog
