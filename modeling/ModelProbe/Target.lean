import ModelProbe.Protocol
import ModelProbe.Text.Digits
import ModelProbe.Text.Search
/-!
# Targets

Where requests are sent: a host that may carry a port of its own, an explicit port that replaces
it, and a port that gRPC falls back to.
-/

namespace ModelProbe

/-- Where requests are sent. -/
structure Target where
  /-- A host, perhaps with a port. -/
  host : String
  /-- The port that replaces the host's own. -/
  port : Option UInt16 := none
  /-- The port of gRPC when no other is given. -/
  defaultPort : UInt16 := 443
  scheme : Scheme := .https
  deriving DecidableEq, Repr, Inhabited

namespace Target

/-- The host's name and its own port, when what follows its last colon is a port. -/
def splitPort? (host : String) : Option (String × UInt16) := do
  let (name, port) ← Text.splitLast? ':' host.toList
  return (String.ofList name, ← Text.readUInt16? port)

/-- The host without its own port. -/
def bareHost (t : Target) : String :=
  match splitPort? t.host with
  | some (name, _) => name
  | none => t.host

/-- A host and a port with a colon between them. -/
def authorityOf (host : String) (port : UInt16) : String :=
  host ++ ":" ++ toString port.toNat

/-- The host and port of an HTTP address: the host as it is unless the port is explicit. -/
def httpAuthority (t : Target) : String :=
  match t.port with
  | some port => authorityOf t.bareHost port
  | none => t.host

/-- The address of an endpoint; slashes that the endpoint begins with do not count. -/
def httpUrl (t : Target) (endpoint : String) : String :=
  t.scheme.name ++ "://" ++ t.httpAuthority ++ "/" ++
    String.ofList (endpoint.toList.dropWhile (· == '/'))

/-- The host and port of gRPC. -/
def grpcAuthority (t : Target) : String :=
  match t.port, splitPort? t.host with
  | some port, _ => authorityOf t.bareHost port
  | none, some _ => t.host
  | none, none => authorityOf t.host t.defaultPort

end Target

end ModelProbe
