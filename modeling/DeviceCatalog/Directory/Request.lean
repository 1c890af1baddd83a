import DeviceCatalog.Directory.Listing
import DeviceCatalog.Directory.Write

/-!
# Requests

Every call that the directory offers, as data, with the type of its result and the action that
carries it out. Statements about all calls range over this type.
-/

namespace DeviceCatalog.Directory

/-- A call of the directory. -/
inductive Request where
  | create (device : Device)
  | update (device : Device)
  | deleteById (id : String)
  | deleteByName (name : String)
  | deviceById (id : String)
  | deviceByName (name : String)
  | existsId (id : String)
  | existsName (name : String)
  | allDevices (offset : UInt64) (limit : Int64)
  | devicesByService (offset : UInt64) (limit : Int64) (service : String)
  | devicesByProfile (offset : UInt64) (limit : Int64) (profile : String)
  | devicesByLabels (offset : UInt64) (limit : Int64) (labels : List String)
  | count
  | countByService (service : String)
  | countByProfile (profile : String)

namespace Request

/-- What a call results in when it succeeds. -/
@[reducible] def Answer : Request → Type
  | create _ | update _ | deviceById _ | deviceByName _ => Device
  | deleteById _ | deleteByName _ => Unit
  | existsId _ | existsName _ => Bool
  | allDevices .. | devicesByService .. | devicesByProfile .. | devicesByLabels .. => List Device
  | count | countByService _ | countByProfile _ => Nat

/-- The action of a call. -/
def action (layout : Layout) : (request : Request) → Action request.Answer
  | create device => Directory.create layout device
  | update device => Directory.update layout device
  | deleteById id => Directory.deleteById layout id
  | deleteByName name => Directory.deleteByName layout name
  | deviceById id => Directory.deviceById layout id
  | deviceByName name => Directory.deviceByName layout name
  | existsId id => Directory.existsId layout id
  | existsName name => Directory.existsName layout name
  | allDevices offset limit => Directory.allDevices layout offset limit
  | devicesByService offset limit service => Directory.devicesByService layout offset limit service
  | devicesByProfile offset limit profile => Directory.devicesByProfile layout offset limit profile
  | devicesByLabels offset limit labels => Directory.devicesByLabels layout offset limit labels
  | count => Directory.count layout
  | countByService service => Directory.countByService layout service
  | countByProfile profile => Directory.countByProfile layout profile

end Request

end DeviceCatalog.Directory
