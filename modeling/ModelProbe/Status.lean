import ModelProbe.Failure
import ModelProbe.Json.Reader
import ModelProbe.Json.Writer
import ModelProbe.Target
import ModelProbe.Url
/-!
# Serving statuses

A serving status tells where an inference service is reached. It is read from a JSON text: the
whole resource, which has the status as a member, or the status alone. Members that are not named
here do not count. A record may also be written as the list of its fields.

* `ServingStatus.ofText`: reads a status.
* `ServingStatus.hostOf`: where the service's predictor is reached.
-/

namespace ModelProbe

/-- What is read of a serving status. -/
structure ServingStatus where
  /-- The name of the resource, for messages. -/
  name : String := ""
  url : Option String := none
  /-- The address inside the cluster. -/
  address : Option String := none
  /-- The address of the predictor. -/
  predictor : Option String := none
  deriving DecidableEq, Repr, Inhabited

namespace ServingStatus

/-! ## Records -/

/-- How a value that was not expected is described. -/
def describe : Json → String
  | .null => "null"
  | .bool b => "boolean \x60" ++ (if b then "true" else "false") ++ "\x60"
  | .number (.integer n) => "integer \x60" ++ toString n ++ "\x60"
  | .number n => "floating point \x60" ++ String.ofList n.text ++ "\x60"
  | .string s => "string " ++ Text.quoted s
  | .array _ => "sequence"
  | .object _ => "map"

/-- A text, or nothing. -/
def readText? : Json → Except ShapeFault (Option String)
  | .null => .ok none
  | .string s => .ok (some s)
  | v => .error (.wrongKind (describe v) "a string")

/-- A value that may be null. -/
def readNullable {α : Type} (read : Json → Except ShapeFault α) :
    Json → Except ShapeFault (Option α)
  | .null => .ok none
  | v => (read v).map some

/-- Reads the fields of a record into `start`: the members of an object by name, or the items of a
list in the order of the fields. -/
def readRecord {α : Type} (name : String) (fields : List String)
    (read : α → String → Json → Except ShapeFault α) (start : α) : Json → Except ShapeFault α
  | .object members =>
    (members.filter fun (field, _) => fields.contains field).foldlM
      (fun r (field, v) => read r field v) start
  | .array items => do
    let r ← (fields.zip items).foldlM (fun r (field, v) => read r field v) start
    if fields.length < items.length then .error (.tooLong items.length) else .ok r
  | v => .error (.wrongKind (describe v) ("struct " ++ name))

/-- Reads a record whose only field is a text. -/
def readSole (name field : String) : Json → Except ShapeFault (Option String) :=
  readRecord name [field] (fun _ _ v => readText? v) none

/-! ## Reading -/

/-- The components of a service: the address of its predictor. -/
def readComponents : Json → Except ShapeFault (Option String) :=
  readRecord "Components" ["predictor"]
    (fun _ _ v => (readNullable (readSole "ComponentStatus" "url") v).map Option.join) none

/-- Reads a field of a status. -/
def readField (s : ServingStatus) (field : String) (v : Json) :
    Except ShapeFault ServingStatus :=
  match field with
  | "url" => (readText? v).map fun url => { s with url := url }
  | "address" =>
    (readNullable (readSole "Addressable" "url") v).map fun a => { s with address := a.join }
  | _ => (readNullable readComponents v).map fun p => { s with predictor := p.join }

/-- Reads a status. -/
def ofJson : Json → Except ShapeFault ServingStatus :=
  readRecord "ServingStatus" ["url", "address", "components"] readField {}

/-- Reads a field of a resource: the status, with the name that the metadata give it. -/
def readResourceField (s : ServingStatus) (field : String) (v : Json) :
    Except ShapeFault ServingStatus :=
  match field with
  | "metadata" =>
    (readNullable (readSole "Metadata" "name") v).map fun n => { s with name := n.join.getD "" }
  | _ => (ofJson v).map fun status => { status with name := s.name }

/-- Reads a resource; its metadata come before its status. -/
def ofResource : Json → Except ShapeFault ServingStatus :=
  readRecord "Resource" ["metadata", "status"] readResourceField {}

/-- Reads a resource or a status from its JSON text. -/
def ofText (s : String) : Except Failure ServingStatus :=
  match Json.ofText? s with
  | none => .error (.invalidStatus .notJson)
  | some v =>
    if (v.member? "status").isSome then
      match ofResource v with
      | .ok status => .ok status
      | .error fault => .error (.invalidStatus (.malformedResource fault))
    else
      match ofJson v with
      | .ok status => .ok status
      | .error fault => .error (.invalidStatus (.malformedStatus fault))

/-! ## Addresses -/

/-- The address of the predictor, when it is not empty. -/
def predictorUrl? (s : ServingStatus) : Option String :=
  s.predictor.filter fun url => !url.isEmpty

/-- The address inside the cluster, when it is not empty. -/
def addressUrl? (s : ServingStatus) : Option String :=
  s.address.filter fun url => !url.isEmpty

/-- How the service is called in messages. -/
def shownName (s : ServingStatus) : String :=
  if s.name.isEmpty then "inference service" else s.name

/-- The host of the predictor, perhaps with a port. -/
def hostOf (s : ServingStatus) : Except Failure String :=
  match s.predictorUrl?.bind Url.netloc? with
  | some host => .ok host
  | none => .error (.targetUnavailable s.shownName)

end ServingStatus

/-- The target that a serving status tells. -/
def Target.ofStatus (s : ServingStatus) : Except Failure Target :=
  s.hostOf.map fun host => { host := host }

end ModelProbe
