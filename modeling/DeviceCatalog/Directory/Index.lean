import DeviceCatalog.Device.Record
import DeviceCatalog.Substrate.Command

/-!
# Index entries of a device

The batches that store, replace and remove a device. A stored device stands in its record, in the
set of ids, in the name table and in one group for its service, its profile and each of its
labels; the groups are scored by the time of the last write. One batch brings all of these along.
-/

namespace DeviceCatalog.Directory

/-- Key of the record of a device. -/
def recordKeyOf (layout : Layout) (device : Device) : String := layout.recordKey device.id

/-- Score of a device in its groups: the time of its last write, as a double. -/
def scoreOf (device : Device) : Score := .ofInt64 device.modified

/-- Puts a key into groups. -/
def joinGroups (groups : List String) (score : Score) (key : String) : Batch :=
  groups.map fun group => .zadd group score key

/-- Takes a key out of groups. -/
def leaveGroups (groups : List String) (key : String) : Batch :=
  groups.map fun group => .zrem group key

/-- The batch that stores a new device. -/
def insertion (layout : Layout) (device : Device) : Batch :=
  let key := recordKeyOf layout device
  [.set key device.encode, .zadd layout.idIndex .zero key,
      .hset layout.nameIndex device.name key] ++
    joinGroups (device.groupKeys layout).toList (scoreOf device) key

/-- The batch that removes a device, whose fields say which index entries it has. -/
def removal (layout : Layout) (device : Device) : Batch :=
  let key := recordKeyOf layout device
  [.del key, .zrem layout.idIndex key, .hdel layout.nameIndex device.name] ++
    leaveGroups (device.groupKeys layout).toList key

/-- The batch that replaces a stored device by another one with the same id. The id stays where it
is, the name table changes only with the name, groups that the new device does not belong to are
left, and all others take the new score. -/
def replacement (layout : Layout) (old new : Device) : Batch :=
  let key := recordKeyOf layout new
  let oldGroups := old.groupKeys layout
  let newGroups := new.groupKeys layout
  .set key new.encode ::
    (if old.name = new.name then []
      else [.hdel layout.nameIndex old.name, .hset layout.nameIndex new.name key]) ++
    leaveGroups (oldGroups.toList.filter fun group => !newGroups.contains group) key ++
    joinGroups newGroups.toList (scoreOf new) key

end DeviceCatalog.Directory
