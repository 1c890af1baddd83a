import DeviceCatalog.Error
import DeviceCatalog.Layout

/-!
# Devices

The record of one registered device, the conditions on it before it is stored, and the groups of the
directory that it belongs to.
-/

namespace DeviceCatalog

/-- Whether a device accepts commands. -/
inductive AdminState where
  | unlocked
  | locked
deriving DecidableEq, Repr

/-- Whether a device can be reached. -/
inductive OperatingState where
  | up
  | down
  | unknown
deriving DecidableEq, Repr

/-- Connection properties by protocol name and property name. -/
abbrev Protocols := Text.Map (Text.Map String)

/-- A registered device. Its id and its name are each unique in the directory; the two times
belong to the directory, which fills them in. -/
structure Device where
  id : String
  name : String
  description : String
  adminState : AdminState
  operatingState : OperatingState
  service : String
  profile : String
  /-- Labels as they were given; neither order nor repetition matters to the directory. -/
  labels : List String
  protocols : Protocols
  /-- Time of creation, or zero while it is not set. -/
  created : Int64
  /-- Time of the last write. -/
  modified : Int64
deriving DecidableEq

namespace Device

/-- A device with an id, a name, a service and a profile, and nothing else set. -/
def plain (id name service profile : String) : Device where
  id := id
  name := name
  description := ""
  adminState := .unlocked
  operatingState := .unknown
  service := service
  profile := profile
  labels := []
  protocols := ∅
  created := 0
  modified := 0

instance : Inhabited Device := ⟨plain "" "" "" ""⟩

/-- The distinct labels. -/
def labelSet (device : Device) : Text.Set := Std.ExtTreeSet.ofList device.labels

/-- Refuses an empty id and an empty name, the id first. -/
def validate (device : Device) : Except Error Unit :=
  if device.id.isEmpty then .error (.invalidInput "device id must not be empty")
  else if device.name.isEmpty then .error (.invalidInput "device name must not be empty")
  else .ok ()

/-- Refuses also an id that the layout reserves. -/
def validateFor (device : Device) (layout : Layout) : Except Error Unit := do
  device.validate
  if layout.isReserved device.id then
    throw (.invalidInput ("device id " ++ device.id ++ " collides with an index key"))

/-- Keys of the groups that the device belongs to: its service, its profile and each of its
labels. -/
def groupKeys (layout : Layout) (device : Device) : Text.Set :=
  Std.ExtTreeSet.ofList
    (layout.serviceIndex device.service :: layout.profileIndex device.profile ::
      device.labelSet.toList.map layout.labelIndex)

end Device

end DeviceCatalog
