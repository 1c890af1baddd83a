import DeviceCatalog.Substrate.StorageError

/-!
# Failures of the directory

A caller tells failures apart by their kind. `notFound` is a legitimate answer to a lookup, while
`database` says that the substrate failed or that stored data is damaged; the two never stand for
each other. A failure that comes from a lower layer keeps the failure below it as its cause.
-/

namespace DeviceCatalog

mutual

/-- Why a call of the directory failed. -/
inductive Error where
  | duplicateId (id : String)
  | duplicateName (name : String)
  | notFound (description : String)
  | contractInvalid (description : String) (cause : Cause)
  | invalidInput (reason : String)
  | database (description : String) (cause : Cause)

/-- The failure below a failure. -/
inductive Cause where
  /-- A remark in words. -/
  | note (text : String)
  /-- A text that is not the JSON form of the value it should hold. -/
  | malformedJson
  | storage (error : StorageError)
  | directory (error : Error)

end

/-- The kinds of failure of the directory. -/
inductive ErrorKind where
  | duplicateId
  | duplicateName
  | notFound
  | contractInvalid
  | invalidInput
  | databaseError
deriving DecidableEq, Repr

namespace ErrorKind

/-- Name of a kind. -/
def label : ErrorKind → String
  | duplicateId => "DuplicateId"
  | duplicateName => "DuplicateName"
  | notFound => "NotFound"
  | contractInvalid => "ContractInvalid"
  | invalidInput => "InvalidInput"
  | databaseError => "DatabaseError"

end ErrorKind

namespace Error

/-- The kind of a failure. -/
def kind : Error → ErrorKind
  | duplicateId _ => .duplicateId
  | duplicateName _ => .duplicateName
  | notFound _ => .notFound
  | contractInvalid .. => .contractInvalid
  | invalidInput _ => .invalidInput
  | database .. => .databaseError

/-- Whether the failure says that the thing asked for does not exist. -/
def isNotFound (error : Error) : Bool := error.kind == .notFound

end Error

mutual

/-- Message of a failure; that of the cause follows after a colon. -/
def Error.message : Error → String
  | .duplicateId id => "device id " ++ id ++ " already exists"
  | .duplicateName name => "device name " ++ name ++ " already exists"
  | .notFound description => description
  | .contractInvalid description cause => description ++ cause.addition
  | .invalidInput reason => "invalid input: " ++ reason
  | .database description cause => description ++ cause.addition

/-- What a cause adds to the message above it. A malformed text adds nothing: where in the text
reading stopped is not part of the message. -/
def Cause.addition : Cause → String
  | .note text => ": " ++ text
  | .malformedJson => ""
  | .storage error => ": " ++ error.message
  | .directory error => ": " ++ error.message

end

mutual

/-- Messages of the failures below a failure, nearest first. -/
def Error.causes : Error → List String
  | .contractInvalid _ cause => cause.chain
  | .database _ cause => cause.chain
  | .duplicateId _ | .duplicateName _ | .notFound _ | .invalidInput _ => []

/-- Messages of a cause and of the failures below it. -/
def Cause.chain : Cause → List String
  | .note text => [text]
  | .malformedJson => ["json"]
  | .storage error => [error.message]
  | .directory error => error.message :: error.causes

end

end DeviceCatalog
