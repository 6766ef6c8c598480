import ModelProbe.Client.Repeated
import ModelProbe.CommandLine.Arguments
import ModelProbe.CommandLine.Report
import ModelProbe.Json.Writer
import ModelProbe.Status
import ModelProbe.Transport.Program
/-!
# Runs of the command line

A run reads its arguments and then its settings and its catalog, and does what is asked. It ends
with a status: zero when all went well, two when the arguments make no sense, and one when
anything else went wrong. What it has shown by then stays shown, and the requests that were carried
by then stay carried.

What programs do, what is answered over a network, which patterns are taken and what is said about
arguments that make no sense is up to the world around a run.

* `perform`: what comes of the command that the arguments ask for.
* `run`: what a run in a workspace shows, and its status.
-/

namespace ModelProbe.CommandLine

/-- What a run shows, and its status. -/
structure Outcome where
  status : Nat := 0
  stdout : String := ""
  stderr : String := ""
  deriving DecidableEq, Repr, Inhabited

/-- What comes of a command. -/
structure Result where
  stdout : String := ""
  stderr : String := ""
  /-- What went wrong, if anything did. -/
  trouble : Option Report := none
  /-- The requests that were carried. -/
  carried : Carried := []
  deriving DecidableEq, Repr, Inhabited

/-- What is shown of a result, with the report of what went wrong last. -/
def Result.outcome (r : Result) : Outcome :=
  match r.trouble with
  | none => { stdout := r.stdout, stderr := r.stderr }
  | some report => { status := 1, stdout := r.stdout, stderr := r.stderr ++ report.text }

/-- Lines, each with its end. -/
def linesText (lines : List String) : String := String.join (lines.map (· ++ "\n"))

/-! ## Listing -/

/-- The lines about one runtime. -/
def runtimeLines (name : String) (r : ServingRuntime) : List String :=
  [name] ++
    (if r.containers.isEmpty then []
      else ["  containers: " ++ String.intercalate ", " r.containers]) ++
    (match r.defaultQuery with
      | some q => ["  default query: " ++ Text.quoted q.text ++ " -> " ++ Text.quoted q.output]
      | none => []) ++
    r.inferenceTypes.toList.map fun (inferenceType, table) =>
      "  " ++ inferenceType ++ ": " ++ String.intercalate ", " (table.keys.map Protocol.name)

/-- Lists a catalog, or one runtime of it. -/
def list (c : Catalog) : Option String → Except Report String
  | none => .ok (linesText (c.runtimes.toList.flatMap fun (name, r) => runtimeLines name r))
  | some name =>
    match c.runtime name with
    | .ok r => .ok (linesText (runtimeLines name r))
    | .error e => .error (.ofFailure e)

/-! ## Clients -/

/-- The world around a run. -/
structure World where
  launch : Launcher := .bare
  network : Network := .unreachable
  /-- Which patterns may be expected. -/
  limit : Pattern.Limit := .estimated
  /-- What is said where arguments ask for help or make no sense. -/
  usage : List String → String := fun _ => ""

/-- What a run depends on besides its arguments. -/
structure Context extends World where
  workspace : Workspace
  settings : Settings
  catalog : Catalog

/-- The host of a service. -/
def hostOf (ws : Workspace) : Service → Except Report String
  | .address text => .ok ((Url.netloc? text).getD text)
  | .statusFile path =>
    match ws.read path with
    | .error fault =>
      .error { message := "failed to read " ++ path, causes := [fault.message] }
    | .ok text =>
      (ServingStatus.ofText text >>= ServingStatus.hostOf).mapError Report.ofFailure

/-- The client for a request. -/
def clientOf (x : Context) (r : RequestArguments) : Except Report Client := do
  let host ← hostOf x.workspace r.service
  let target : Target :=
    { host := host, port := r.port, scheme := if r.plainHttp then .http else .https }
  let transport := Transport.ofSettings x.workspace x.launch x.network x.settings
  let client ← (Client.ofCatalog x.catalog r.runtime r.inferenceType r.protocol target
    transport).mapError Report.ofFailure
  return { client.withSettings x.settings with limit := x.limit }

/-- The text of a question. -/
def textOf (client : Client) : Question → Except Report String
  | .text s => .ok s
  | .missing => .error { message := "either --text or --default-query is required" }
  | .byDefault =>
    match client.defaultQuery with
    | some q => .ok q.text
    | none => .error { message := client.runtime ++ " has no default query" }

/-- The client for a request, and its query. -/
def queryOf (x : Context) (r : RequestArguments) : Except Report (Client × Query) := do
  let client ← clientOf x r
  let text ← textOf client r.question
  return (client, { model := r.model, text := text, token := r.token, insecure := r.insecure })

/-! ## Rendering -/

/-- The lines about a request. -/
def requestText (client : Client) (r : Request) : String :=
  linesText [
    "endpoint: " ++ r.endpoint,
    "target:   " ++ r.fullTarget,
    "header:   " ++ r.header,
    "body:     " ++ r.body,
    "command:  " ++ client.transport.describe r]

/-- Shows a request. -/
def render (x : Context) (r : RequestArguments) : Except Report String := do
  let (client, q) ← queryOf x r
  return requestText client (client.request q)

/-! ## Querying -/

/-- The client with the timeout that the arguments ask for. -/
def withTimeout (client : Client) (seconds : Option Nat) : Client :=
  match seconds with
  | some n => { client with timeout := .ofSeconds n }
  | none => client

/-- What is expected of a call, if anything. -/
def expectationOf (client : Client) (a : QueryArguments) :
    Except Report (Option Expectation) :=
  match a.expected, a.request.question with
  | .denied, _ => .ok (some .denied)
  | .text s, _ => .ok (some (.text s))
  | .byDefault, .byDefault =>
    ((client.defaultExpectation a.request.model).map some).mapError Report.ofFailure
  | .byDefault, _ => .ok none

/-- Sends a query several times and counts the answers. -/
def queryRepeatedly (client : Client) (q : Query) (a : QueryArguments) :
    Option Expectation → Result
  | none =>
    { trouble := some
        { message := "repeated runs need --expect, --unauthorized or --default-query" } }
  | some expected =>
    match client.runRepeatedly expected q a.iterations a.atOnce [] with
    | (.ok answers, carried) =>
      { stdout := linesText [toString answers.length ++ " inference requests verified"]
        carried := carried }
    | (.error e, carried) =>
      { trouble := some (.because "repeated inference failed" e), carried := carried }

/-- Sends a query, shows the answer and checks it. -/
def queryOnce (client : Client) (q : Query) (expected : Option Expectation) : Result :=
  match client.run q [] with
  | (.error e, carried) => { trouble := some (.ofFailure e), carried := carried }
  | (.ok answer, carried) =>
    let shown : Result :=
      { stdout := linesText [(Json.object answer.table.toList).indented], carried := carried }
    match expected with
    | none => shown
    | some expected =>
      match client.check expected q.token answer with
      | .ok () => { shown with stderr := linesText ["verified"] }
      | .error e => { shown with trouble := some (.because "verification failed" e) }

/-- What a query needs before anything is sent: a client, the query, and what is expected. -/
def prepare (x : Context) (a : QueryArguments) :
    Except Report (Client × Query × Option Expectation) := do
  let (client, q) ← queryOf x a.request
  return (withTimeout client a.timeoutSeconds, q, ← expectationOf client a)

/-- Sends a query as its arguments say. -/
def query (x : Context) (a : QueryArguments) : Result :=
  match prepare x a with
  | .error r => { trouble := some r }
  | .ok (client, q, expected) =>
    if 1 < a.iterations || a.atOnce then queryRepeatedly client q a expected
    else queryOnce client q expected

/-! ## Runs -/

/-- The settings and the catalog of a run. -/
def contextOf (ws : Workspace) (world : World) (settingsPath : Option String) :
    Except Report Context := do
  let settings ← (match settingsPath with
    | some path => Settings.loadFrom ws path
    | none => Settings.load ws).mapError (Report.because "failed to load configuration")
  let catalog ← (settings.catalog ws).mapError (Report.because "failed to load catalog")
  return { world with workspace := ws, settings := settings, catalog := catalog }

/-- The result of showing a text. -/
def shown : Except Report String → Result
  | .ok text => { stdout := text }
  | .error r => { trouble := some r }

/-- Does what is asked. -/
def act (x : Context) : Action → Result
  | .list runtime => shown (list x.catalog runtime)
  | .render r => shown (render x r)
  | .query a => query x a

/-- Does what the arguments ask for. -/
def perform (ws : Workspace) (world : World) (args : List String) : Except Refusal Result :=
  match Arguments.ofList args with
  | .error refusal => .error refusal
  | .ok a =>
    match contextOf ws world a.settingsPath with
    | .error r => .ok { trouble := some r }
    | .ok x => .ok (act x a.action)

/-- What a run with these arguments shows, and its status. -/
def run (ws : Workspace) (world : World) (args : List String) : Outcome :=
  match perform ws world args with
  | .error .help => { stdout := world.usage args }
  | .error .misuse => { status := 2, stderr := world.usage args }
  | .ok r => r.outcome

end ModelProbe.CommandLine
