import DeviceCatalog.Directory.Index
import DeviceCatalog.Directory.Lookup

/-!
# Storing, replacing and removing a device

Each write first reads what it depends on and then hands over one batch, which brings the record and
every index entry along together. What was read may have changed by the time the batch runs; the
batch is built from what was read all the same.
-/

namespace DeviceCatalog.Directory

/-- Stores a new device. Its time of creation is filled in when it is zero, and its time of
modification always; both come from one reading of the clock. The result is the device as stored. -/
def create (layout : Layout) (device : Device) : Action Device := do
  Action.ofExcept (device.validateFor layout)
  if ← existsId layout device.id then throw (.duplicateId device.id)
  if ← existsName layout device.name then throw (.duplicateName device.name)
  let now ← Action.readClock
  let stored :=
    { device with
      created := if device.created = 0 then now else device.created
      modified := now }
  Action.commit "device creation failed" (insertion layout stored)
  return stored

/-- Replaces the stored device with the same id. The time of creation is kept. A name is checked
only when it changes. -/
def update (layout : Layout) (device : Device) : Action Device := do
  Action.ofExcept (device.validateFor layout)
  let old ← deviceById layout device.id
  if old.name ≠ device.name then
    if ← existsName layout device.name then throw (.duplicateName device.name)
  let now ← Action.readClock
  let stored := { device with created := old.created, modified := now }
  Action.commit "device update failed" (replacement layout old stored)
  return stored

/-- Reads a device, changes it, and replaces it by the result. -/
def amend (layout : Layout) (id : String) (change : Device → Device) : Action Device := do
  let device ← deviceById layout id
  update layout (change device)

/-- Removes a device that was read. -/
def remove (layout : Layout) (device : Device) : Action Unit :=
  Action.commit "device deletion failed" (removal layout device)

/-- Removes the device with this id. -/
def deleteById (layout : Layout) (id : String) : Action Unit := do
  let device ← deviceById layout id
  remove layout device

/-- Removes the device with this name. -/
def deleteByName (layout : Layout) (name : String) : Action Unit := do
  let device ← deviceByName layout name
  remove layout device

end DeviceCatalog.Directory
