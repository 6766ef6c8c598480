import ModelProbe.Text.Quoted
/-!
# Protocols and schemes

The two ways a serving endpoint is spoken to, and the two schemes of an HTTP address.
-/

namespace ModelProbe

/-- How a request is carried. -/
inductive Protocol
  | http
  | grpc
  deriving DecidableEq, Repr, Inhabited

namespace Protocol

/-- The protocol's name in lower case. -/
def name : Protocol → String
  | http => "http"
  | grpc => "grpc"

/-- HTTP comes before gRPC. -/
def rank : Protocol → Nat
  | http => 0
  | grpc => 1

instance : Ord Protocol := ⟨fun a b => compare a.rank b.rank⟩

instance : Std.TransOrd Protocol where
  eq_swap {a b} := by cases a <;> cases b <;> rfl
  isLE_trans {a b c} := by cases a <;> cases b <;> cases c <;> decide

instance : Std.LawfulEqOrd Protocol where
  eq_of_compare {a b} := by cases a <;> cases b <;> decide

/-- The text with its ASCII capital letters in lower case. -/
def lowerAscii (s : String) : String :=
  String.ofList (s.toList.map Char.toLower)

/-- Reads a protocol's name in any letter case; `https` is HTTP. -/
def ofName? (s : String) : Option Protocol :=
  match lowerAscii s with
  | "http" => some http
  | "https" => some http
  | "grpc" => some grpc
  | _ => none

/-- What is said about a name that is no protocol's. -/
def unknownMessage (s : String) : String :=
  "unknown protocol " ++ Text.quoted s ++ " (expected http, https or grpc)"

theorem ofName?_name (p : Protocol) : ofName? p.name = some p := by
  cases p <;> decide

end Protocol

/-- Whether an HTTP address is reached over TLS. -/
inductive Scheme
  | https
  | http
  deriving DecidableEq, Repr, Inhabited

/-- The scheme as it begins an address. -/
def Scheme.name : Scheme → String
  | .https => "https"
  | .http => "http"

end ModelProbe
