import ModelProbe.Protocol
/-!
# Failures

Why an operation could not be done, and how that is said. What a reader of a foreign format says
about a text it refuses is not part of the message.

* `Failure.isConfiguration`: the failures that lie in the catalog or the settings, not in a call.
-/

namespace ModelProbe

/-- Why a catalog is refused. -/
inductive CatalogFault
  /-- An inference type without protocols. -/
  | noProtocols (runtime inferenceType : String)
  /-- A protocol's key that names none. -/
  | unknownProtocol (location name : String)
  /-- A second key for a protocol. -/
  | repeatedProtocol (location : String) (protocol : Protocol)
  /-- An entry without a field that it needs. -/
  | missingField (location field : String)
  /-- A catalog file that is not there. -/
  | noFile (path : String)
  /-- A runtime whose default query is asked for and that has none. -/
  | noDefaultQuery (runtime : String)
  /-- A default query whose output should be a pattern and is none. -/
  | notPattern
  deriving DecidableEq, Repr

/-- What is said about a refused catalog. -/
def CatalogFault.message : CatalogFault → String
  | noProtocols runtime inferenceType => runtime ++ "/" ++ inferenceType ++ ": no protocols defined"
  | unknownProtocol location name => location ++ ": " ++ Protocol.unknownMessage name
  | repeatedProtocol location protocol =>
    location ++ ": " ++ protocol.name ++ " is defined more than once"
  | missingField location field => location ++ ": missing `" ++ field ++ "`"
  | noFile path => "catalog file " ++ path ++ " does not exist"
  | noDefaultQuery runtime => runtime ++ ": no default query defined"
  | notPattern => "default query output is not a regex"

/-- How a value differs from the shape that is expected of it. -/
inductive ShapeFault
  /-- A value of another kind. -/
  | wrongKind (found expected : String)
  /-- A list with more items than there are fields. -/
  | tooLong (length : Nat)
  deriving DecidableEq, Repr

/-- What is said about a value of the wrong shape. -/
def ShapeFault.message : ShapeFault → String
  | wrongKind found expected => "invalid type: " ++ found ++ ", expected " ++ expected
  | tooLong length =>
    "invalid length " ++ toString length ++ ", expected fewer elements in array"

/-- Why a serving status is refused. -/
inductive StatusFault
  | notJson
  | malformedResource (fault : ShapeFault)
  | malformedStatus (fault : ShapeFault)
  deriving DecidableEq, Repr

/-- What is said about a refused serving status. -/
def StatusFault.message : StatusFault → String
  | notJson => "not JSON"
  | malformedResource fault => "malformed resource: " ++ fault.message
  | malformedStatus fault => "malformed status: " ++ fault.message

/-- Why an operation could not be done. -/
inductive Failure
  | unsupportedRuntime (runtime : String) (known : List String)
  | unsupportedInferenceType (runtime inferenceType : String) (known : List String)
  | unsupportedProtocol (runtime inferenceType : String) (protocol : Protocol)
      (known : List Protocol)
  | invalidCatalog (fault : CatalogFault)
  | invalidStatus (fault : StatusFault)
  | targetUnavailable (resource : String)
  /-- A call that a transport could not carry, that it reports as failed, or that took too long. -/
  | execution (command stdout stderr : String)
  | textNotFound (field : Option String) (response : String)
  | textMismatch (expected actual : String)
  | reasonMissing (response : String)
  | reasonMismatch (expected actual : String)
  /-- Settings or a catalog file that cannot be read as such. -/
  | unreadable
  deriving DecidableEq, Repr

namespace Failure

open Text

/-- What is said about a failure. -/
def message : Failure → String
  | unsupportedRuntime runtime known =>
    "runtime " ++ quoted runtime ++ " not supported; supported runtimes are " ++ quotedList known
  | unsupportedInferenceType runtime inferenceType known =>
    "inference type " ++ quoted inferenceType ++ " not supported by runtime " ++ quoted runtime ++
      "; supported inference types are " ++ quotedList known
  | unsupportedProtocol runtime inferenceType protocol known =>
    "protocol " ++ quoted protocol.name ++ " not supported for " ++ runtime ++ "/" ++
      inferenceType ++ "; supported protocols are " ++ quotedList (known.map Protocol.name)
  | invalidCatalog fault => "invalid catalog: " ++ fault.message
  | invalidStatus fault => "invalid serving status: " ++ fault.message
  | targetUnavailable resource => resource ++ ": no url found in serving status"
  | execution command stdout stderr =>
    "inference failed with error: " ++ stderr ++ "\noutput: " ++ stdout ++ "\ncommand: " ++ command
  | textNotFound field _ =>
    "inference response text not found in response (field " ++ quotedOption field ++ ")"
  | textMismatch expected actual =>
    "inference response mismatch:\n  expected: " ++ quoted expected ++ "\n  actual:   " ++
      quoted actual
  | reasonMissing _ => "x-ext-auth-reason header not found in response"
  | reasonMismatch expected actual =>
    "x-ext-auth-reason " ++ quoted actual ++ " does not match " ++ expected
  | unreadable => "configuration error"

/-- Whether the failure lies in the catalog or the settings: no call can mend it. -/
def isConfiguration : Failure → Bool
  | unsupportedRuntime .. | unsupportedInferenceType .. | unsupportedProtocol ..
  | invalidCatalog _ | unreadable => true
  | _ => false

end Failure

end ModelProbe
