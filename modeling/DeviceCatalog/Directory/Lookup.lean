import DeviceCatalog.Device.Record
import DeviceCatalog.Directory.Action

/-!
# Looking up a device

Whether an id or a name is taken is read from the index of ids and from the name table alone. A
device is looked up through its record; a name is first resolved to the key of the record.
-/

namespace DeviceCatalog.Directory

/-- Whether a device with this id is stored. -/
def existsId (layout : Layout) (id : String) : Action Bool := do
  let score ← Action.ask "device existence check by id failed"
    (.zscore layout.idIndex (layout.recordKey id))
  return score.isSome

/-- Whether a device with this name is stored. -/
def existsName (layout : Layout) (name : String) : Action Bool :=
  Action.ask "device existence check by name failed" (.hexists layout.nameIndex name)

/-- The device whose record stands under a key, if the key is there. -/
def deviceAt? (key : String) : Action (Option Device) := do
  match ← Action.ask "device query failed" (.get key) with
  | none => return none
  | some bytes => Action.ofExcept ((Device.decode bytes).map some)

/-- Nothing is stored under this id. -/
def unknownId (id : String) : Error := .notFound ("device with id " ++ id ++ " does not exist")

/-- Nothing is stored under this name. -/
def unknownName (name : String) : Error :=
  .notFound ("device with name " ++ name ++ " does not exist")

/-- The device with this id. A reserved id names no device, since the key of its record would be the
key of an index, and that key is not read. -/
def deviceById (layout : Layout) (id : String) : Action Device := do
  if layout.isReserved id then throw (unknownId id)
  match ← deviceAt? (layout.recordKey id) with
  | some device => return device
  | none => throw (unknownId id)

/-- The device with this name. -/
def deviceByName (layout : Layout) (name : String) : Action Device := do
  match ← Action.ask "device query by name failed" (.hget layout.nameIndex name) with
  | none => throw (unknownName name)
  | some key =>
    match ← deviceAt? key with
    | some device => return device
    | none => throw (unknownName name)

end DeviceCatalog.Directory
