import ModelProbe.Settings
import ModelProbe.Transport.Http
/-!
# Programs as transports

A program is started with the arguments that a request asks for. What programs do is up to the
system that they run on, and may depend on how many requests were carried before.

* `Transport.command`: carries each request by the program for its protocol.
* `Transport.native`: carries HTTP itself and gRPC by its program.
-/

namespace ModelProbe

/-- What starts programs: what comes of a program with its arguments before which so many requests
were carried, or why it cannot be started. -/
abbrev Launcher := Nat → (program : String) → (args : List String) → Except String Reply

/-- Where there are no programs. -/
def Launcher.bare : Launcher := fun _ _ _ => .error PathFault.absent.message

namespace Transport

/-- The reply of the program for a request. Neither its name nor its arguments can have the
character that ends them. -/
def programReply (launch : Launcher) (ps : Programs) (count : Nat) (r : Request) : Reply :=
  let program := ps.program r.protocol
  let args := Programs.args r
  let started :=
    if (program :: args).any fun s => s.toList.contains '\x00' then
      .error "nul byte found in provided data"
    else launch count program args
  match started with
  | .ok reply => reply
  | .error reason => { outcome := .error (.spawn program reason) }

/-- The transport that starts a program for each request. -/
def command (launch : Launcher) (ps : Programs) : Transport where
  name := TransportKind.command.name
  describe := fun r => r.describeCommand ps
  reply := programReply launch ps

/-- The transport that sends HTTP messages itself and starts a program for gRPC. -/
def native (ws : Workspace) (launch : Launcher) (network : Network) (ps : Programs) :
    Transport where
  name := TransportKind.native.name
  describe := fun r => r.describeNative ps
  reply := fun count r =>
    match r.protocol with
    | .http => (http ws network).reply count r
    | .grpc => programReply launch ps count r

/-- The transport that settings ask for. -/
def ofSettings (ws : Workspace) (launch : Launcher) (network : Network) (s : Settings) :
    Transport :=
  match s.kind with
  | .command => command launch s.programs
  | .native => native ws launch network s.programs

end Transport

end ModelProbe
