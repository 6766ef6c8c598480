import ModelProbe.Catalog
import ModelProbe.Settings
import ModelProbe.Target
import ModelProbe.Template
import ModelProbe.Transport
import ModelProbe.Verdict
/-!
# Clients

A client is bound to an entry of the catalog, a target and a transport. It renders requests,
has them carried, and turns what comes of them into answers. A call that takes longer than the
client's timeout has failed, and what is said of a failed call has the token masked.

Each operation takes the requests that the transport has carried so far and returns them with its
own added.
-/

namespace ModelProbe

/-- What is asked of a model, and on whose behalf. -/
structure Query where
  model : String
  text : String := ""
  /-- The bearer token; an empty one is none. -/
  token : Option String := none
  /-- Whether certificates go unchecked. -/
  insecure : Bool := false
  deriving DecidableEq, Repr, Inhabited

/-- The requests that a transport has carried, in order. -/
abbrev Carried := List Request

/-- The request of a query at a target: the entry's templates filled for the query. -/
def Entry.request (e : Entry) (protocol : Protocol) (target : Target) (q : Query) : Request :=
  let fill := (Bindings.ofQuery q.model q.text).fill
  let endpoint := fill e.endpoint
  { protocol := protocol
    header := fill e.header
    body := fill e.body
    endpoint := endpoint
    target := match protocol with
      | .http => target.httpUrl endpoint
      | .grpc => target.grpcAuthority
    token := q.token.filter fun token => !token.isEmpty
    insecure := q.insecure
    args := e.transportArgs }

/-- What queries one service. -/
structure Client where
  runtime : String
  inferenceType : String
  protocol : Protocol
  entry : Entry
  defaultQuery : Option DefaultQuery
  target : Target
  transport : Transport
  /-- How long a call may take. -/
  timeout : Duration := .ofSeconds 120
  /-- Which patterns may be expected. -/
  limit : Pattern.Limit := .estimated
  deriving Inhabited

namespace Client

/-- The client for an entry of a catalog. -/
def ofCatalog (c : Catalog) (runtime inferenceType : String) (protocol : Protocol)
    (target : Target) (transport : Transport) : Except Failure Client := do
  let entry ← c.resolve runtime inferenceType protocol
  let r ← c.runtime runtime
  return {
    runtime := runtime
    inferenceType := inferenceType
    protocol := protocol
    entry := entry
    defaultQuery := r.defaultQuery
    target := target
    transport := transport }

/-- The client with the timeout and the port of settings. -/
def withSettings (c : Client) (s : Settings) : Client :=
  { c with timeout := s.timeout, target := { c.target with defaultPort := s.defaultPort } }

/-- The request of a query. -/
def request (c : Client) (q : Query) : Request := c.entry.request c.protocol c.target q

/-! ## Calls -/

/-- The failure of a call with this output. -/
def failed (c : Client) (r : Request) (stdout stderr : String) : Failure :=
  .execution (c.transport.describe r) (r.redact stdout) (r.redact stderr)

/-- What a reply to a request means. -/
def outcome (c : Client) (r : Request) (reply : Reply) : Except Failure Answer :=
  if c.timeout.milliseconds < reply.after.milliseconds then
    .error (c.failed r "" ("timed out after " ++ c.timeout.text))
  else
    match reply.outcome with
    | .error fault => .error (c.failed r "" fault.message)
    | .ok out =>
      if out.success then .ok (Answer.ofText out.stdout)
      else .error (c.failed r out.stdout out.stderr)

/-- Has a request carried. -/
def execute (c : Client) (r : Request) (carried : Carried) :
    Except Failure Answer × Carried :=
  (c.outcome r (c.transport.reply carried.length r), carried ++ [r])

/-- Sends a query. -/
def run (c : Client) (q : Query) (carried : Carried) : Except Failure Answer × Carried :=
  c.execute (c.request q) carried

/-- Checks an answer against what is expected of the query. -/
def check (c : Client) (expected : Expectation) (token : Option String) (a : Answer) :
    Except Failure Unit :=
  a.check c.entry expected token

/-! ## The default query -/

/-- The default query of the client's runtime. -/
def requireDefaultQuery (c : Client) : Except Failure DefaultQuery :=
  match c.defaultQuery with
  | some q => .ok q
  | none => .error (.invalidCatalog (.noDefaultQuery c.runtime))

/-- What the default query is expected to bring. -/
def defaultExpectation (c : Client) (model : String) : Except Failure Expectation :=
  match c.requireDefaultQuery with
  | .error e => .error e
  | .ok query => Expectation.ofDefaultQuery c.limit query model

/-- Sends the default query. -/
def runDefault (c : Client) (q : Query) (carried : Carried) :
    Except Failure Answer × Carried :=
  match c.requireDefaultQuery with
  | .error e => (.error e, carried)
  | .ok query => c.run { q with text := query.text } carried

/-! ## Showing a client -/

/-- The name of a protocol in a client's text. -/
def protocolText : Protocol → String
  | .http => "Http"
  | .grpc => "Grpc"

/-- The name of a scheme in a client's text. -/
def schemeText : Scheme → String
  | .https => "Https"
  | .http => "Http"

/-- A record with its fields and their texts. -/
def recordText (name : String) (fields : List (String × String)) : String :=
  name ++ " \x7b " ++
    String.intercalate ", " (fields.map fun (field, text) => field ++ ": " ++ text) ++ " \x7d"

/-- The text of a target. -/
def targetText (t : Target) : String :=
  recordText "Target" [
    ("host", Text.quoted t.host),
    ("port", match t.port with
      | some port => "Some(" ++ toString port.toNat ++ ")"
      | none => "None"),
    ("default_port", toString t.defaultPort.toNat),
    ("scheme", schemeText t.scheme)]

/-- The text of a client, which tells nothing about its entry. -/
def text (c : Client) : String :=
  recordText "InferenceClient" [
    ("runtime", Text.quoted c.runtime),
    ("inference_type", Text.quoted c.inferenceType),
    ("protocol", protocolText c.protocol),
    ("target", targetText c.target),
    ("transport", Text.quoted c.transport.name),
    ("timeout", c.timeout.text)]

end Client

end ModelProbe
