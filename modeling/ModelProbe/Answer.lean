import ModelProbe.Json.Reader
import ModelProbe.Text.Blank
import ModelProbe.Text.Digits
import ModelProbe.Text.Search
/-!
# Answers

A transport prints the response heads, each closed by an empty line, and then the payload. The
answer is a table: each status line under its version, each header under its name, and over them
the members of the payload when it is one JSON object. Any other payload leaves the whole output
under `output`.
-/

namespace ModelProbe

/-- What a transport printed, and the table that was read from it. -/
structure Answer where
  raw : String
  table : JsonObject

namespace Answer

/-- The name under which the whole output stands when the payload is not an object. -/
def outputKey : String := "output"

/-- The characters that a response head begins with. -/
def headMark : List Char := ['H', 'T', 'T', 'P', '/']

/-- The text before and after the first empty line; without one, everything is before it. -/
def splitHead : List Char → List Char × List Char
  | [] => ([], [])
  | c :: cs =>
    match c, cs with
    | '\r', '\n' :: '\r' :: '\n' :: rest => ([], rest)
    | '\n', '\n' :: rest => ([], rest)
    | _, _ =>
      let (head, rest) := splitHead cs
      (c :: head, rest)

/-- Reads a status line: the version, and the status after the first space. -/
def readStatusLine (line : List Char) : String × Json :=
  match Text.splitFirst? ' ' line with
  | some (version, status) =>
    (String.ofList version, .string (String.ofList (Text.trim status)))
  | none => (String.ofList line, .string "")

/-- Reads a header line: the name before the first colon, and the value. -/
def readHeaderLine? (line : List Char) : Option (String × Json) :=
  (Text.splitFirst? ':' line).map fun (name, value) =>
    (String.ofList (Text.trim name), .string (String.ofList (Text.trim value)))

/-- The table's entries that a head stands for, in the order of its lines. -/
def readHead (head : List Char) : List (String × Json) :=
  match (Text.splitOn '\n' head).map Text.trimEnd with
  | [] => []
  | status :: lines => readStatusLine status :: lines.filterMap readHeaderLine?

theorem length_splitHead_le (s : List Char) : (splitHead s).2.length ≤ s.length := by
  fun_induction splitHead s <;> simp_all <;> omega

/-- The entries of all heads that the text begins with, and the payload. -/
def readHeads (s : List Char) : List (String × Json) × List Char :=
  match s with
  | 'H' :: 'T' :: 'T' :: 'P' :: '/' :: rest =>
    let split := splitHead rest
    let (entries, payload) := readHeads (Text.trimStart split.2)
    (readHead (headMark ++ split.1) ++ entries, payload)
  | _ => ([], s)
termination_by s.length
decreasing_by
  have := length_splitHead_le rest
  have := Text.length_trimStart_le (splitHead rest).2
  simp only [List.length_cons]
  omega

/-- Reads what a transport printed. -/
def ofText (raw : String) : Answer :=
  let (entries, payload) := readHeads (Text.trimStart raw.toList)
  let heads := SortedMap.ofList entries
  match Json.ofChars? (Text.trim payload) with
  | some (.object members) => ⟨raw, members.foldl (fun t (k, v) => t.insert k v) heads⟩
  | _ => ⟨raw, heads.insert outputKey (.string raw)⟩

/-- The value under a name. -/
def get? (a : Answer) (name : String) : Option Json := a.table.get? name

/-- Whether two texts are the same but for the case of ASCII letters. -/
def sameName (a b : String) : Bool :=
  a.toList.map Char.toLower == b.toList.map Char.toLower

/-- The value of a header: the first of the table whose name differs in letter case at most, when
it is a string. -/
def header? (a : Answer) (name : String) : Option String :=
  (a.table.toList.find? fun (key, _) => sameName key name).bind fun (_, value) => value.asString?

/-- The status code in the table's last status line that has one. -/
def statusCode? (a : Answer) : Option UInt16 :=
  (a.table.toList.filterMap fun (key, value) => do
    let _ ← Text.dropPiece? headMark key.toList
    let status ← value.asString?
    Text.readUInt16? (← (Text.words status.toList).head?)).getLast?

end Answer

end ModelProbe
