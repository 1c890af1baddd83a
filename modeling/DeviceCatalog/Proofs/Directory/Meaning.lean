import DeviceCatalog.Clock
import DeviceCatalog.Directory.Request
import DeviceCatalog.Proofs.Directory.Mirror
import DeviceCatalog.Proofs.Directory.Window

/-!
# What the calls of a directory mean

The calls, said of a catalog and a clock alone: no key, no index and no record occurs here. A write
that fails changes nothing, and only a write that succeeds reads the clock.
-/

namespace DeviceCatalog

namespace Catalog

open Directory

/-- The devices, ascending by id. -/
def devices (catalog : Catalog) : List Device := catalog.toList.map Prod.snd

/-- The device that bears a name. -/
def bearer? (catalog : Catalog) (name : String) : Option Device :=
  catalog.devices.find? fun device => decide (device.name = name)

/-- Why a device cannot be stored, whatever is stored already. -/
def refusal? (layout : Layout) (device : Device) : Option Error :=
  if device.id = "" then some (.invalidInput "device id must not be empty")
  else if device.name = "" then some (.invalidInput "device name must not be empty")
  else if layout.isReserved device.id = true then
    some (.invalidInput ("device id " ++ device.id ++ " collides with an index key"))
  else none

theorem validateFor_eq (layout : Layout) (device : Device) :
    device.validateFor layout =
      match refusal? layout device with
      | some reason => .error reason
      | none => .ok () := by
  simp only [Device.validateFor, Device.validate, refusal?, String.isEmpty_iff]
  split
  next => rfl
  next =>
    split
    next => rfl
    next =>
      by_cases reserved : layout.isReserved device.id = true
      · simp only [reserved, if_true]
        rfl
      · simp only [reserved]
        rfl

/-- A device that is not refused has an id that the layout admits, and a name. -/
theorem admits_of_refusal? {layout : Layout} {device : Device}
    (accepted : refusal? layout device = none) :
    layout.Admits device.id ∧ device.name ≠ "" := by
  rw [refusal?] at accepted
  split at accepted
  next => cases accepted
  next nonempty =>
    split at accepted
    next => cases accepted
    next named =>
      split at accepted
      next => cases accepted
      next unreserved => exact ⟨⟨nonempty, by simpa using unreserved⟩, named⟩

variable {source : Type}

/-- Stores a device that has its times from the clock. -/
def store [Clock source] (catalog : Catalog) (stamped : Int64 → Device) (clock : source) :
    Except Error Device × Catalog × source :=
  match Clock.read clock with
  | (now, later) => (.ok (stamped now), catalog.insert (stamped now).id (stamped now), later)

/-- Stores a new device. -/
def create [Clock source] (catalog : Catalog) (layout : Layout) (device : Device)
    (clock : source) : Except Error Device × Catalog × source :=
  match refusal? layout device with
  | some reason => (.error reason, catalog, clock)
  | none =>
    if device.id ∈ catalog then (.error (.duplicateId device.id), catalog, clock)
    else if ∃ other ∈ catalog.devices, other.name = device.name then
      (.error (.duplicateName device.name), catalog, clock)
    else
      catalog.store (fun now =>
        { device with
          created := if device.created = 0 then now else device.created
          modified := now }) clock

/-- Replaces the device with the same id. -/
def update [Clock source] (catalog : Catalog) (layout : Layout) (device : Device)
    (clock : source) : Except Error Device × Catalog × source :=
  match refusal? layout device with
  | some reason => (.error reason, catalog, clock)
  | none =>
    match catalog[device.id]? with
    | none => (.error (unknownId device.id), catalog, clock)
    | some old =>
      if ∃ other ∈ catalog.devices, other.id ≠ device.id ∧ other.name = device.name then
        (.error (.duplicateName device.name), catalog, clock)
      else
        catalog.store (fun now => { device with created := old.created, modified := now }) clock

/-- Removes a device that was looked for. -/
def delete (catalog : Catalog) (found : Option Device) (missing : Error) (clock : source) :
    Except Error Unit × Catalog × source :=
  match found with
  | none => (.error missing, catalog, clock)
  | some device => (.ok (), catalog.erase device.id, clock)

/-- Answers a search for one device. -/
def answer (found : Option Device) (missing : Error) : Except Error Device :=
  match found with
  | none => .error missing
  | some device => .ok device

/-! ## Listings -/

/-- What decides the place of a device in a listing. -/
def pairOf (layout : Layout) (score : Device → Score) (device : Device) : Score × String :=
  (score device, layout.recordKey device.id)

/-- The devices of one kind, descending by score, and by record key where the scores are equal. -/
def listing (catalog : Catalog) (layout : Layout) (keep : Device → Prop) [DecidablePred keep]
    (score : Device → Score) : List Device :=
  (catalog.devices.filter keep).mergeSort fun left right =>
    (SortedSet.order (pairOf layout score right) (pairOf layout score left)).isLE

/-- All devices; the index of ids gives each the same score. -/
def all (catalog : Catalog) (layout : Layout) : List Device :=
  catalog.listing layout (fun _ => True) fun _ => .zero

/-- The devices of a group, the most recently written first. -/
def members (catalog : Catalog) (layout : Layout) (group : Group) : List Device :=
  catalog.listing layout (·.MemberOf group) scoreOf

/-- The devices with every one of the labels, the most recently written first; all devices when there
is no label. -/
def labelled (catalog : Catalog) (layout : Layout) (labels : List String) : List Device :=
  if labels = [] then catalog.all layout
  else catalog.listing layout (fun device => ∀ label ∈ labels, label ∈ device.labels) scoreOf

/-! ## Calls -/

/-- What a call results in, and the catalog and the clock after it. -/
def serve [Clock source] (catalog : Catalog) (layout : Layout) (clock : source) :
    (request : Request) → Except Error request.Answer × Catalog × source
  | .create device => catalog.create layout device clock
  | .update device => catalog.update layout device clock
  | .deleteById id => catalog.delete catalog[id]? (unknownId id) clock
  | .deleteByName name => catalog.delete (catalog.bearer? name) (unknownName name) clock
  | .deviceById id => (answer catalog[id]? (unknownId id), catalog, clock)
  | .deviceByName name => (answer (catalog.bearer? name) (unknownName name), catalog, clock)
  | .existsId id => (.ok (decide (id ∈ catalog)), catalog, clock)
  | .existsName name => (.ok (catalog.bearer? name).isSome, catalog, clock)
  | .allDevices offset limit => (Window.page offset limit (catalog.all layout), catalog, clock)
  | .devicesByService offset limit service =>
      (Window.page offset limit (catalog.members layout (.service service)), catalog, clock)
  | .devicesByProfile offset limit profile =>
      (Window.page offset limit (catalog.members layout (.profile profile)), catalog, clock)
  | .devicesByLabels offset limit labels =>
      (Window.page offset limit (catalog.labelled layout labels), catalog, clock)
  | .count => (.ok (catalog.all layout).length, catalog, clock)
  | .countByService service =>
      (.ok (catalog.members layout (.service service)).length, catalog, clock)
  | .countByProfile profile =>
      (.ok (catalog.members layout (.profile profile)).length, catalog, clock)

end Catalog

/-! ## Several directories -/

/-- What several directories over one substrate amount to: one catalog, and a clock for each. -/
structure Registry (source : Type) where
  catalog : Catalog
  clocks : List source

namespace Registry

variable {source : Type} [Clock source]

/-- Carries out a call with one of the clocks. -/
def call (registry : Registry source) (layout : Layout) (index : Nat)
    (request : Directory.Request) : Option (Except Error request.Answer × Registry source) :=
  registry.clocks[index]?.map fun clock =>
    match registry.catalog.serve layout clock request with
    | (outcome, catalog, later) => (outcome, ⟨catalog, registry.clocks.set index later⟩)

/-- What a call results in. -/
def outcome (registry : Registry source) (layout : Layout) (index : Nat)
    (request : Directory.Request) : Option (Except Error request.Answer) :=
  (registry.call layout index request).map Prod.fst

/-- The registry after a call; a call without a clock does nothing. -/
def advance (layout : Layout) (registry : Registry source) (call : Nat × Directory.Request) :
    Registry source :=
  ((registry.call layout call.1 call.2).map Prod.snd).getD registry

/-- The registry after calls in their order. -/
def afterCalls (registry : Registry source) (layout : Layout)
    (calls : List (Nat × Directory.Request)) : Registry source :=
  calls.foldl (advance layout) registry

variable {registry : Registry source} {layout : Layout}

theorem length_clocks_advance (call : Nat × Directory.Request) :
    (registry.advance layout call).clocks.length = registry.clocks.length := by
  rw [advance, Registry.call]
  cases registry.clocks[call.1]? with
  | none => rfl
  | some clock => exact List.length_set

theorem length_clocks_afterCalls (calls : List (Nat × Directory.Request)) :
    (registry.afterCalls layout calls).clocks.length = registry.clocks.length := by
  induction calls generalizing registry with
  | nil => rfl
  | cons call rest ih => exact ih.trans (length_clocks_advance call)

end Registry

end DeviceCatalog
