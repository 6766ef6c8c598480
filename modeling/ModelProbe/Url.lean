import ModelProbe.Host
import ModelProbe.Text.Digits
/-!
# Addresses of resources

An absolute address has a scheme, perhaps a host and a port, a path, and perhaps a query and a
fragment. Of the schemes that are known, each but `file` has a port of its own, which is left out;
a backslash counts as a slash in them. Blanks and controls around an address do not count, nor do
tabs and line breaks in it.

* `Url.ofText?`: reads an address.
* `Url.netloc?`: the host and the port of an address.
-/

namespace ModelProbe

/-- An absolute address. -/
structure Url where
  /-- The scheme in lower case. -/
  scheme : String
  /-- Whether two slashes follow the scheme, with or without a host after them. -/
  hasAuthority : Bool
  host : Option Host
  /-- The port, unless it is the scheme's own. -/
  port : Option Nat
  path : List Char
  query : Option (List Char)
  fragment : Option (List Char)
  deriving DecidableEq, Repr

namespace Url

/-- What is known about a scheme. -/
inductive SchemeKind
  /-- The addresses of files. -/
  | file
  /-- A scheme with this port and with domain names as hosts. -/
  | known (port : Nat)
  | other
  deriving DecidableEq, Repr

/-- The kind of a scheme, by its name in lower case. -/
def schemeKind (name : String) : SchemeKind :=
  match name with
  | "file" => .file
  | "http" => .known 80
  | "ws" => .known 80
  | "https" => .known 443
  | "wss" => .known 443
  | "ftp" => .known 21
  | _ => .other

/-- Whether a backslash counts as a slash. -/
def SchemeKind.isSpecial : SchemeKind → Bool
  | other => false
  | _ => true

/-- The text without controls and spaces at its ends, and without tabs and line breaks. -/
def cleaned (s : List Char) : List Char :=
  let isEdge (c : Char) : Bool := c.toNat ≤ 32
  let inner := ((s.dropWhile isEdge).reverse.dropWhile isEdge).reverse
  inner.filter fun c => c != '\t' && c != '\n' && c != '\r'

/-- Whether a scheme may go on with this character. -/
def isSchemeChar (c : Char) : Bool := c.isAlphanum || c == '+' || c == '-' || c == '.'

/-- The scheme in lower case, and the text after its colon. -/
def splitScheme? (s : List Char) : Option (String × List Char) :=
  let scheme := s.takeWhile isSchemeChar
  match s.drop scheme.length with
  | ':' :: rest =>
    if scheme.head?.any Char.isAlpha then some (String.ofList (scheme.map Char.toLower), rest)
    else none
  | _ => none

/-- Whether the character separates the names of a path. -/
def isSlash (special : Bool) (c : Char) : Bool := c == '/' || (special && c == '\\')

/-- Whether the character ends the host and port. -/
def endsAuthority (special : Bool) (c : Char) : Bool :=
  isSlash special c || c == '?' || c == '#'

/-! ## Host and port -/

/-- Whether what stands before a host names a user or a password. -/
def namesUser (user : List Char) : Bool := !user.isEmpty && user != [':']

/-- The part of an authority before its last `@`, and the part after it. -/
def splitUser (authority : List Char) : List Char × List Char :=
  (Text.splitLast? '@' authority).getD ([], authority)

/-- The host's text and what follows it, which begins with a colon unless it is empty. A colon in
brackets belongs to the host. -/
def splitHost (inBrackets : Bool) : List Char → List Char × List Char
  | [] => ([], [])
  | c :: cs =>
    if c = ':' && !inBrackets then ([], c :: cs)
    else
      let inBrackets := if c = '[' then true else if c = ']' then false else inBrackets
      let (host, rest) := splitHost inBrackets cs
      (c :: host, rest)

/-- Reads a port after its colon, and the rest. Without digits there is none, and a character that
ends the authority may follow. -/
def readPort? (s : List Char) : Option (Option Nat × List Char) :=
  let digits := s.takeWhile Char.isDigit
  let rest := s.drop digits.length
  let endsWell := match rest with
    | [] => true
    | c :: _ => endsAuthority true c
  if !endsWell || 65535 < Text.digitsValue digits then none
  else some (if digits.isEmpty then none else some (Text.digitsValue digits), rest)

/-- A host, if there is one, and a port, if there is one. -/
structure Authority where
  host : Option Host := none
  port : Option Nat := none
  deriving DecidableEq, Repr

/-- Reads the authority of a scheme that is not `file`, and the rest. Only where hosts are no
domain names may the host be missing. -/
def readAuthority? (kind : SchemeKind) (s : List Char) : Option (Authority × List Char) := do
  let special := kind.isSpecial
  let authority := s.takeWhile fun c => !endsAuthority special c
  let rest := s.drop authority.length
  let (user, place) := splitUser authority
  let (hostText, after) := splitHost false place
  if hostText.isEmpty then
    if special || !after.isEmpty || namesUser user then none else return ({}, rest)
  let host ← if special then Host.ofDomain? hostText else Host.ofOther? hostText
  let (port, more) ← match after with
    | _ :: digits => readPort? digits
    | [] => some (none, [])
  return (⟨some host, port.filter fun n => kind != .known n⟩, more ++ rest)

/-! ## Paths -/

/-- Whether a name of a path stands for the directory itself. -/
def isHere (name : List Char) : Bool :=
  [".", "%2e"].contains (String.ofList (name.map Char.toLower))

/-- Whether a name of a path stands for the directory above. -/
def isAbove (name : List Char) : Bool :=
  ["..", ".%2e", "%2e.", "%2e%2e"].contains (String.ofList (name.map Char.toLower))

/-- Whether a text names a drive: a letter with a colon or a bar. -/
def isDrive : List Char → Bool
  | [letter, mark] => letter.isAlpha && (mark == ':' || mark == '|')
  | _ => false

/-- The text with the given characters, controls and what is not ASCII escaped. -/
def escapeText (excluded : String) (s : List Char) : List Char :=
  s.flatMap fun c =>
    if excluded.toList.contains c then (Text.utf8Bytes [c]).flatMap Host.escapeByte
    else Host.escapeChar c

/-- The names without the last one; a drive stays. -/
def dropName (isFile : Bool) (names : List (List Char)) : List (List Char) :=
  match names with
  | [name] => if isFile && isDrive name then [name] else []
  | _ => names.dropLast

/-- The names of a path without those that stand for directories, after the names before them. -/
def resolveNames (isFile : Bool) (before : List (List Char)) :
    List (List Char) → List (List Char)
  | [] => before
  | name :: rest =>
    if isAbove name then
      let before := dropName isFile before
      if rest.isEmpty then before ++ [[]] else resolveNames isFile before rest
    else if isHere name then
      if rest.isEmpty then before ++ [[]] else resolveNames isFile before rest
    else
      let name := if isFile && before.isEmpty && isDrive name then name.take 1 ++ [':']
        else escapeText " \"#<>?\x60\x7b\x7d" name
      resolveNames isFile (before ++ [name]) rest

/-- The pieces of a text between the characters that separate. -/
def splitWhere (separates : Char → Bool) : List Char → List (List Char)
  | [] => [[]]
  | c :: cs =>
    match splitWhere separates cs with
    | piece :: pieces => if separates c then [] :: piece :: pieces else (c :: piece) :: pieces
    | [] => [[]]

/-- The normal form of a path of names. -/
def pathOfNames (kind : SchemeKind) (s : List Char) : List Char :=
  let special := kind.isSpecial
  let names := match s with
    | [] => if special then [[]] else []
    | c :: cs => splitWhere (isSlash special) (if isSlash special c then cs else c :: cs)
  (resolveNames (kind == .file) [] names).flatMap ('/' :: ·)

/-! ## Files -/

/-- Reads the host of a file's address after two slashes, and the rest. A drive is no host, nor does
a file on a drive have one, and the local host is none. -/
def readFileHost? (s : List Char) : Option (Option Host × List Char) :=
  let hostText := s.takeWhile fun c => !endsAuthority true c
  let rest := s.drop hostText.length
  if hostText.isEmpty then some (none, rest)
  else if isDrive hostText then some (none, s)
  else
    match Host.ofDomain? hostText with
    | none => none
    | some host =>
      let first := (rest.dropWhile (isSlash true)).takeWhile fun c => !endsAuthority true c
      if host = .name "localhost".toList || isDrive first then some (none, rest)
      else some (some host, rest)

/-! ## Addresses -/

/-- The path, the query and the fragment of what follows a host. -/
def splitPath (s : List Char) : List Char × Option (List Char) × Option (List Char) :=
  let (s, fragment) := match Text.splitFirst? '#' s with
    | some (s, fragment) => (s, some fragment)
    | none => (s, none)
  match Text.splitFirst? '?' s with
  | some (path, query) => (path, some query, fragment)
  | none => (s, none, fragment)

/-- The address with these parts; `hasNames` says whether its path consists of names. -/
def ofParts (scheme : String) (hasAuthority hasNames : Bool) (a : Authority) (s : List Char) :
    Url :=
  let kind := schemeKind scheme
  let (path, query, fragment) := splitPath s
  { scheme := scheme, hasAuthority := hasAuthority, host := a.host, port := a.port
    path := if hasNames then pathOfNames kind path else escapeText "" path
    query := query.map (escapeText (if kind.isSpecial then " \"#<>'" else " \"#<>"))
    fragment := fragment.map (escapeText " \"<>\x60") }

/-- Reads an address. -/
def ofText? (s : String) : Option Url := do
  let (scheme, rest) ← splitScheme? (cleaned s.toList)
  match schemeKind scheme, rest with
  | .known port, _ =>
    let (a, rest) ← readAuthority? (.known port) (rest.dropWhile (isSlash true))
    return ofParts scheme true true a rest
  | .file, first :: second :: more =>
    if isSlash true first && isSlash true second then
      let (host, rest) ← readFileHost? more
      return ofParts scheme true true ⟨host, none⟩ rest
    else return ofParts scheme true true {} rest
  | .file, _ => return ofParts scheme true true {} rest
  | .other, '/' :: '/' :: more =>
    let (a, rest) ← readAuthority? .other more
    return ofParts scheme true true a rest
  | .other, '/' :: _ => return ofParts scheme false true {} rest
  | .other, _ => return ofParts scheme false false {} rest

/-- The host, and the port after a colon. -/
def hostText (u : Url) : List Char :=
  (u.host.map Host.text).getD [] ++
    match u.port with
    | some port => ':' :: Nat.toDigits 10 port
    | none => []

/-- The text of an address. A path that would read as a host is told apart from one. -/
def text (u : Url) : String :=
  let start := if u.hasAuthority then ['/', '/'] ++ u.hostText
    else if ['/', '/'].isPrefixOf u.path then ['/', '.'] else []
  String.ofList (u.scheme.toList ++ ':' :: start ++ u.path ++
    (u.query.map ('?' :: ·)).getD [] ++ (u.fragment.map ('#' :: ·)).getD [])

/-- The host of an address, and its port after a colon unless it is the scheme's own. -/
def netloc? (s : String) : Option String := do
  let u ← ofText? s
  let _ ← u.host
  return String.ofList u.hostText

end Url

end ModelProbe
