import ModelProbe.Duration
import ModelProbe.Request
/-!
# Transports

A transport carries requests. Its reply to a request is either what it observed or why it could
not even begin, and comes after some time. Replies may depend on how many requests the transport
has carried before; whoever uses a transport keeps account of them.
-/

namespace ModelProbe

/-- Why a request was not attempted. -/
inductive TransportFault
  /-- The program could not be started. -/
  | spawn (program reason : String)
  /-- The transport does not know the protocol. -/
  | unsupported (transport : String) (protocol : Protocol)
  deriving DecidableEq, Repr

/-- What is said about a request that was not attempted. -/
def TransportFault.message : TransportFault → String
  | spawn program reason => "failed to spawn " ++ program ++ ": " ++ reason
  | unsupported transport protocol =>
    transport ++ " transport does not support " ++ protocol.name

/-- What a transport observed. -/
structure Output where
  success : Bool := true
  /-- The response heads and the payload. -/
  stdout : String := ""
  stderr : String := ""
  deriving DecidableEq, Repr, Inhabited

/-- What comes of a request, and when. -/
structure Reply where
  after : Duration := ⟨0⟩
  outcome : Except TransportFault Output

instance : Inhabited Reply := ⟨{ outcome := .ok {} }⟩

/-- What carries requests. -/
structure Transport where
  name : String
  /-- The request for messages, with the token masked. -/
  describe : Request → String
  /-- The reply to a request before which so many others were carried. -/
  reply : Nat → Request → Reply

instance : Inhabited Transport :=
  ⟨{ name := "", describe := fun _ => "", reply := fun _ _ => default }⟩

/-- The transport whose replies are given in advance, the last of them for all further requests.
Without any, each request succeeds with an empty output. -/
def Transport.scripted (name : String) (describe : Request → String) (replies : List Reply) :
    Transport where
  name := name
  describe := describe
  reply := fun count _ => (replies[count]?.or replies.getLast?).getD default

end ModelProbe
