import ModelProbe.Protocol
import ModelProbe.Shell.Word
import ModelProbe.Text.Blank
/-!
# Requests

A rendered request is ready to be carried: every template is filled and the target is chosen.
Its descriptions, and whatever a transport prints about it, are shown with the bearer token
replaced.
-/

namespace ModelProbe

/-- A request with everything that a transport needs. -/
structure Request where
  protocol : Protocol
  /-- A header line, or a bare media type. -/
  header : String
  /-- The body; a text `@path` stands for the contents of that file. -/
  body : String
  /-- The URL path of HTTP, or the full method name of gRPC. -/
  endpoint : String
  /-- The URL of HTTP, or the authority of gRPC. -/
  target : String
  /-- The bearer token. -/
  token : Option String
  /-- Whether certificates go unchecked. -/
  insecure : Bool
  /-- Further transport options, each with a value that may be empty. -/
  args : List (String × String)
  deriving DecidableEq, Repr, Inhabited

namespace Request

/-- What a shown text has in the place of the token. -/
def mask : String := "***"

/-- The target together with the method, for gRPC. -/
def fullTarget (r : Request) : String :=
  match r.protocol with
  | .http => r.target
  | .grpc => r.target ++ " " ++ r.endpoint

/-- The line of the request's own header: a text without a colon names a media type. -/
def ownHeaderLines (r : Request) : List String :=
  let header := Text.trim r.header.toList
  if header.contains ':' then [String.ofList header]
  else if header.isEmpty then []
  else ["Content-Type: " ++ String.ofList header]

/-- The header lines, the one with the token last. -/
def headerLines (r : Request) : List String :=
  r.ownHeaderLines ++
    match r.token with
    | some token => ["Authorization: Bearer " ++ token]
    | none => []

/-- The header lines as names and values. -/
def headers (r : Request) : List (String × String) :=
  r.headerLines.filterMap fun line =>
    (Text.splitFirst? ':' line.toList).map fun (name, value) =>
      (String.ofList (Text.trim name), String.ofList (Text.trim value))

/-- The text with every occurrence of the token masked; an empty token is nowhere. -/
def redact (r : Request) (text : String) : String :=
  match r.token with
  | some token => String.ofList (Text.replace token.toList mask.toList text.toList)
  | none => text

/-- The options that name each header line. -/
def headerOptions (r : Request) : List String :=
  r.headerLines.flatMap fun line => ["-H", line]

/-- The arguments of `curl`. -/
def curlArgs (r : Request) : List String :=
  ["-i", "-s", "-d", r.body] ++ r.headerOptions ++
    (if r.insecure then ["--insecure"] else []) ++ [r.target]

/-- The arguments of `grpcurl`. -/
def grpcurlArgs (r : Request) : List String :=
  ["-d", r.body] ++ r.headerOptions ++ (if r.insecure then ["-insecure"] else []) ++
    r.args.flatMap (fun (key, value) =>
      ("-" ++ key) :: if value.isEmpty then [] else [value]) ++
    [r.target, r.endpoint]

end Request

/-- The programs that carry requests. -/
structure Programs where
  curl : String := "curl"
  grpcurl : String := "grpcurl"
  deriving DecidableEq, Repr, Inhabited

namespace Programs

/-- The program for a protocol. -/
def program (ps : Programs) : Protocol → String
  | .http => ps.curl
  | .grpc => ps.grpcurl

/-- The arguments that the request's program is given. -/
def args (r : Request) : List String :=
  match r.protocol with
  | .http => r.curlArgs
  | .grpc => r.grpcurlArgs

/-- The program followed by its arguments. -/
def commandLine (ps : Programs) (r : Request) : List String :=
  ps.program r.protocol :: args r

end Programs

/-! ## Descriptions -/

namespace Request

/-- The command line as one could type it, with the token masked. -/
def describeCommand (r : Request) (ps : Programs) : String :=
  r.redact (Shell.join (ps.commandLine r))

/-- The HTTP request in one line, with the token masked. -/
def describeHttp (r : Request) : String :=
  r.redact <|
    "POST " ++ r.target ++
      String.join (r.headerLines.map fun line => " [" ++ line ++ "]") ++
      (if r.insecure then " (insecure)" else "")

/-- HTTP requests in one line, gRPC requests as a command line. -/
def describeNative (r : Request) (ps : Programs) : String :=
  match r.protocol with
  | .http => r.describeHttp
  | .grpc => r.describeCommand ps

end Request

end ModelProbe
