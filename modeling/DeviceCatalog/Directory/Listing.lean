import DeviceCatalog.Device.Record
import DeviceCatalog.Directory.Action
import DeviceCatalog.Directory.Window

/-!
# Listing and counting devices

Groups are scored by the time of the last write, so a descending page of a group is a page of
devices with the most recently written first. The records of a page are fetched with one query; a
record that is missing or damaged fails the whole page, and a part of a page is never returned.
-/

namespace DeviceCatalog.Directory

/-- What a page with an unusable record is reported with. -/
def damaged (cause : Cause) : Error :=
  .database "device format parsing failed from the database" cause

/-- The device behind one key of a page. -/
def deviceOfSlot : String × Option Bytes → Except Error Device
  | (key, none) => .error (damaged (.note ("no primary object at " ++ key)))
  | (_, some bytes) => (Device.decode bytes).mapError fun error => damaged (.directory error)

/-- The devices behind the keys of a page, in their order. -/
def fetch (keys : List String) : Action (List Device) := do
  if keys.isEmpty then return []
  let objects ← Action.ask "device batch fetch failed" (.mget keys)
  Action.ofExcept ((keys.zip objects).mapM deviceOfSlot)

/-- A page of a sorted set of record keys, in descending order. -/
def page (key : String) (offset : UInt64) (limit : Int64) : Action (List Device) := do
  match ← Action.ofExcept (Window.resolve offset limit) with
  | none => return []
  | some window =>
    let keys ← Action.ask "device range query failed"
      (.zrevrange key window.ranks.1 window.ranks.2)
    fetch keys

/-- All devices, descending by the key of their record: the index of ids gives each the same
score. -/
def allDevices (layout : Layout) (offset : UInt64) (limit : Int64) : Action (List Device) :=
  page layout.idIndex offset limit

/-- The devices of a service, the most recently written first. -/
def devicesByService (layout : Layout) (offset : UInt64) (limit : Int64) (service : String) :
    Action (List Device) :=
  page (layout.serviceIndex service) offset limit

/-- The devices with a profile, the most recently written first. -/
def devicesByProfile (layout : Layout) (offset : UInt64) (limit : Int64) (profile : String) :
    Action (List Device) :=
  page (layout.profileIndex profile) offset limit

/-- The keys among the given ones that stand in the group of every label. Once no key is left the
remaining groups are not read. -/
def keepLabelled (layout : Layout) : List String → List String → Action (List String)
  | keys, [] => return keys
  | keys, label :: rest => do
    if keys.isEmpty then return keys
    let group ← Action.ask "device query by labels failed"
      (.zrange (layout.labelIndex label) 0 (-1))
    keepLabelled layout (keys.filter (group.contains ·)) rest

/-- The devices that carry every one of the labels, the most recently written first; without a label
these are all devices. A device has the same score in all of its groups, so the order of the first
group is the order of the result. -/
def devicesByLabels (layout : Layout) (offset : UInt64) (limit : Int64) (labels : List String) :
    Action (List Device) := do
  match labels.eraseDups with
  | [] => allDevices layout offset limit
  | [label] => page (layout.labelIndex label) offset limit
  | first :: rest =>
    match ← Action.ofExcept (Window.resolve offset limit) with
    | none => return []
    | some window =>
      let keys ← Action.ask "device query by labels failed"
        (.zrevrange (layout.labelIndex first) 0 (-1))
      let common ← keepLabelled layout keys rest
      fetch (window.slice common)

/-- How many devices are stored. -/
def count (layout : Layout) : Action Nat :=
  Action.ask "device count failed" (.zcard layout.idIndex)

/-- How many devices a service has. -/
def countByService (layout : Layout) (service : String) : Action Nat :=
  Action.ask "device count by service name failed" (.zcard (layout.serviceIndex service))

/-- How many devices have a profile. -/
def countByProfile (layout : Layout) (profile : String) : Action Nat :=
  Action.ask "device count by profile name failed" (.zcard (layout.profileIndex profile))

end DeviceCatalog.Directory
