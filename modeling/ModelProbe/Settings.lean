import ModelProbe.Catalog.Source
import ModelProbe.Duration
import ModelProbe.Request
/-!
# Settings

What a run depends on besides its arguments: the transport and its programs, the time that a call
may take, the port of gRPC, and a catalog file to put over the built-in catalog. The layers are,
from the lowest on, the defaults, a file and the environment.
-/

namespace ModelProbe

/-- How requests are carried. -/
inductive TransportKind
  /-- HTTP and gRPC by a program each. -/
  | command
  /-- HTTP without a program, gRPC by its program. -/
  | native
  deriving DecidableEq, Repr, Inhabited

/-- The name of a kind of transport. -/
def TransportKind.name : TransportKind → String
  | command => "command"
  | native => "native"

/-- The settings of a run. -/
structure Settings where
  kind : TransportKind := .command
  /-- How many seconds a call may take. -/
  timeoutSeconds : Nat := 120
  programs : Programs := {}
  /-- The port of gRPC when no other is given. -/
  defaultPort : UInt16 := 443
  /-- A catalog to put over the built-in one. -/
  catalogPath : Option String := none
  deriving DecidableEq, Repr, Inhabited

namespace Settings

/-- How long a call may take. -/
def timeout (s : Settings) : Duration := .ofSeconds s.timeoutSeconds

/-! ## Reading -/

/-- The kind of transport with a name. -/
def kindOfName? : String → Option TransportKind
  | "command" => some .command
  | "native" => some .native
  | _ => none

/-- A kind of transport is written as its name, or as a table with that single key. -/
def kindOf? : Setting → Option TransportKind
  | .text name => kindOfName? name
  | .table [(name, _)] => kindOfName? name
  | _ => none

/-- Reads the section of the transport into settings. -/
def addTransport? (s : Settings) (v : Setting) : Option Settings := do
  let [kind, timeout, curl, grpcurl] ←
    v.fieldValues? ["kind", "timeout_secs", "curl_bin", "grpcurl_bin"] | none
  return { s with
    kind := ← Setting.fieldOr? s.kind kindOf? kind
    timeoutSeconds := ← Setting.fieldOr? s.timeoutSeconds Setting.asNatural? timeout
    programs := {
      curl := ← Setting.fieldOr? s.programs.curl Setting.asText? curl
      grpcurl := ← Setting.fieldOr? s.programs.grpcurl Setting.asText? grpcurl } }

/-- Reads the section of gRPC into settings. -/
def addGrpc? (s : Settings) (v : Setting) : Option Settings := do
  let [port] ← v.fieldValues? ["default_port"] | none
  return { s with defaultPort := ← Setting.fieldOr? s.defaultPort Setting.asPort? port }

/-- Reads the section of the catalog into settings. -/
def addCatalog? (s : Settings) (v : Setting) : Option Settings := do
  let [path] ← v.fieldValues? ["path"] | none
  return { s with
    catalogPath := ← Setting.fieldOr? s.catalogPath (Setting.asOptional? Setting.asText?) path }

/-- The settings that a value writes; a section that is missing leaves the defaults. -/
def ofSetting? (v : Setting) : Option Settings := do
  let [transport, grpc, catalog] ← v.fieldValues? ["transport", "grpc", "catalog"] | none
  let s : Settings := {}
  let s ← Setting.fieldOr? s s.addTransport? transport
  let s ← Setting.fieldOr? s s.addGrpc? grpc
  Setting.fieldOr? s s.addCatalog? catalog

/-! ## Loading -/

/-- The lowest layer. -/
def defaultLayer : List (String × Setting) :=
  let s : Settings := {}
  [("catalog", .table []),
   ("grpc", .table [("default_port", .whole s.defaultPort.toNat)]),
   ("transport", .table [("curl_bin", .text s.programs.curl),
     ("grpcurl_bin", .text s.programs.grpcurl), ("kind", .text s.kind.name),
     ("timeout_secs", .whole s.timeoutSeconds)])]

/-- The settings with a file's layer and the environment's over the defaults. -/
def ofLayers (file environment : List (String × Setting)) : Except Failure Settings :=
  let v := ((Setting.ofLayer defaultLayer).addLayer file).addLayer environment
  match ofSetting? v with
  | some s => .ok s
  | none => .error .unreadable

/-- The settings with a file at a path; a file that is not there has no layer. -/
def loadFrom (ws : Workspace) (path : String) : Except Failure Settings :=
  let environment := Setting.ofEnvironment ws.environment
  match Setting.findFile? ws path with
  | none => ofLayers [] environment
  | some found =>
    match Setting.readFile? found with
    | none => .error .unreadable
    | some layer => ofLayers layer environment

/-- Where the user's settings file is. -/
def userPath (ws : Workspace) : String :=
  let directory := match ws.value? "XDG_CONFIG_HOME" with
    | some directory => directory
    | none => Workspace.join ((ws.value? "HOME").getD ".") ".config"
  Workspace.join (Workspace.join directory "iqe") "config.toml"

/-- The settings with the user's file. -/
def load (ws : Workspace) : Except Failure Settings := loadFrom ws (userPath ws)

/-- The built-in catalog, with the catalog file of the settings over it. -/
def catalog (s : Settings) (ws : Workspace) : Except Failure Catalog :=
  match s.catalogPath with
  | none => .ok .builtin
  | some path => (Catalog.load ws path).map Catalog.builtin.merge

end Settings

end ModelProbe
