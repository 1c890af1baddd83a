import DeviceCatalog.Substrate.Entry

/-!
# Failures of the substrate

A call fails because a key holds another kind of value than the call needs, because a batch was
discarded, or because the substrate was not reached. No failed call changes the key space.
-/

namespace DeviceCatalog

/-- Why a substrate call failed. -/
inductive StorageError where
  | wrongType (key : String) (expected actual : Kind)
  | aborted (reason : String)
  | connection (reason : String)
deriving DecidableEq, Repr

namespace StorageError

/-- Name of the failure's class. -/
def className : StorageError → String
  | wrongType .. => "WrongType"
  | aborted _ => "Aborted"
  | connection _ => "Connection"

/-- Message of a failure. -/
def message : StorageError → String
  | wrongType key expected actual =>
    "WRONGTYPE operation against key '" ++ key ++ "': holds " ++ actual.label ++ ", expected " ++
      expected.label
  | aborted reason => "transaction aborted: " ++ reason
  | connection reason => "connection error: " ++ reason

end StorageError

end DeviceCatalog
