import DeviceCatalog.Error
import DeviceCatalog.Substrate.Script

/-!
# Actions of the directory

An action is a script that ends with a result or a failure of the directory. A substrate call that
fails ends the action with a database failure whose cause is the failure of the call, so nothing
else is called after it.
-/

namespace DeviceCatalog.Directory

/-- A script that may fail. -/
abbrev Action (result : Type) := ExceptT Error Script result

namespace Action

/-- What a failed call is reported as. -/
def fault (description : String) (error : StorageError) : Error :=
  .database description (.storage error)

/-- Puts a query to the substrate. -/
def ask (description : String) (query : Query) : Action query.Answer :=
  ExceptT.mk (Script.ask query fun answer => .done (answer.mapError (fault description)))

/-- Hands a batch to the substrate. -/
def commit (description : String) (batch : Batch) : Action Unit :=
  ExceptT.mk (Script.exec batch fun answer => .done (answer.mapError (fault description)))

/-- Reads the clock. -/
def readClock : Action Int64 :=
  ExceptT.mk (Script.readClock fun time => .done (.ok time))

/-- Ends with a result or a failure, without a call. -/
def ofExcept {result : Type} (outcome : Except Error result) : Action result :=
  ExceptT.mk (.done outcome)

end Action

end DeviceCatalog.Directory
