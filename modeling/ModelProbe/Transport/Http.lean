import ModelProbe.Transport
import ModelProbe.Url
import ModelProbe.Workspace
/-!
# HTTP messages

A rendered request for HTTP becomes a message that a network can take: its body is read, its
target is an address with a host and a scheme of HTTP, and its headers have names and values that
may be sent. A request that makes no message has failed before anything is sent.

* `HttpMessage.ofRequest`: the message of a request.
* `Transport.http`: sends the messages of requests over a network.
-/

namespace ModelProbe

/-- A message that can be sent. -/
structure HttpMessage where
  target : Url
  headers : List (String × String)
  body : String
  /-- Whether the certificates of the target go unchecked. -/
  unchecked : Bool
  deriving DecidableEq, Repr

/-- Why a request makes no message. -/
inductive MessageFault
  /-- The file that the body stands for cannot be read. -/
  | unreadableBody (path : String) (fault : PathFault)
  /-- The target is no address, or a header may not be sent. -/
  | malformed
  /-- Nothing can be sent to this address. -/
  | badAddress (address : Url)
  deriving DecidableEq, Repr

/-- What is said about a request that makes no message. -/
def MessageFault.message : MessageFault → String
  | unreadableBody path fault =>
    "failed to read request body from " ++ path ++ ": " ++ fault.message
  | malformed => "builder error"
  | badAddress address => "builder error for url (" ++ address.text ++ ")"

namespace HttpMessage

/-! ## The parts of a message -/

/-- The body that a text stands for: `@path` for a file's contents without its line breaks, any
other text for itself. -/
def readBody (ws : Workspace) (body : String) : Except MessageFault String :=
  match body.toList with
  | '@' :: path =>
    let path := String.ofList path
    match ws.read path with
    | .ok text => .ok (String.ofList (text.toList.filter fun c => c != '\r' && c != '\n'))
    | .error fault => .error (.unreadableBody path fault)
  | _ => .ok body

/-- The characters that a header's name consists of. -/
def isNameChar (c : Char) : Bool :=
  c.isAlphanum || "!#$%&'*+-.^_\x60|~".toList.contains c

/-- Whether a header may have this name. -/
def isName (name : String) : Bool :=
  !name.isEmpty && name.length < 65536 && name.toList.all isNameChar

/-- Whether a header may have this value: it has no control characters but tabs. -/
def isValue (value : String) : Bool :=
  value.toList.all fun c => c == '\t' || (32 ≤ c.toNat && c.toNat != 127)

/-- Whether a message can be sent to a host; some hosts of addresses are none of messages. -/
def isHost (host : List Char) : Bool := host.all fun c => !("\"\x60\x7b\x7d".toList.contains c)

/-- Whether a message can be sent to an address. -/
def isAddress (u : Url) : Bool :=
  (u.scheme == "http" || u.scheme == "https") && isHost u.hostText

/-! ## Messages -/

/-- The message of a request. -/
def ofRequest (ws : Workspace) (r : Request) : Except MessageFault HttpMessage := do
  let body ← readBody ws r.body
  let some target := Url.ofText? r.target | throw .malformed
  if target.host.isNone then throw (.badAddress target)
  if !r.headers.all fun (name, value) => isName name && isValue value then throw .malformed
  if !isAddress target then throw (.badAddress target)
  return ⟨target, r.headers, body, r.insecure⟩

end HttpMessage

/-! ## Sending messages -/

/-- A network: its reply to a message before which so many requests were carried. -/
abbrev Network := Nat → HttpMessage → Reply

/-- The network on which nobody is reached. -/
def Network.unreachable : Network := fun _ m =>
  { outcome := .ok
      { success := false, stderr := "error sending request for url (" ++ m.target.text ++ ")" } }

/-- The transport that sends HTTP messages itself and knows no other protocol. -/
def Transport.http (ws : Workspace) (network : Network) : Transport where
  name := "http"
  describe := Request.describeHttp
  reply := fun count r =>
    match r.protocol with
    | .grpc => { outcome := .error (.unsupported "http" .grpc) }
    | .http =>
      match HttpMessage.ofRequest ws r with
      | .error fault => { outcome := .ok { success := false, stderr := fault.message } }
      | .ok m => network count m

end ModelProbe
