import ModelProbe.Json.Reader
import ModelProbe.Number.Decimal
import ModelProbe.Protocol
import ModelProbe.Setting.KeyPath
import ModelProbe.Text.LowerCase
import ModelProbe.Toml.Reader
import ModelProbe.Workspace
import ModelProbe.Yaml.Reader
/-!
# Where layers come from

A layer is read from a file, whose format its extension tells, or from the environment. A file
named without an extension of these is also looked for with each of them.
-/

namespace ModelProbe.Setting

/-- A format of settings files. -/
inductive Format
  | toml
  | json
  | yaml
  deriving DecidableEq, Repr

/-- The extensions, in the order in which they are tried. -/
def extensions : List (String × Format) :=
  [("toml", .toml), ("json", .json), ("yaml", .yaml), ("yml", .yaml)]

/-! ## Formats -/

/-- A JSON number as a setting. -/
def ofJsonNumber : JsonNumber → Setting
  | .integer n => whole n
  | .real x => real (.finite x)

mutual

/-- A JSON value as a setting. -/
def ofJson : Json → Setting
  | .null => nothing
  | .bool b => flag b
  | .number n => ofJsonNumber n
  | .string s => text s
  | .array vs => list (ofJsonItems vs)
  | .object ms => table (ofJsonMembers ms)

/-- JSON values as settings. -/
def ofJsonItems : List Json → List Setting
  | [] => []
  | v :: vs => ofJson v :: ofJsonItems vs

/-- JSON members as settings. -/
def ofJsonMembers : List (String × Json) → List (String × Setting)
  | [] => []
  | (name, v) :: ms => (name, ofJson v) :: ofJsonMembers ms

end

/-- The members of the root of a JSON text. -/
def readJson? (s : List Char) : Option (List (String × Setting)) :=
  match Json.ofChars? s with
  | some (.object ms) => some (ofJsonMembers ms)
  | _ => none

/-- Reads the layer that a text of this format holds. -/
def Format.read? (f : Format) (s : List Char) : Option (List (String × Setting)) :=
  match f with
  | .toml => Toml.ofChars? s
  | .json => readJson? s
  | .yaml => Yaml.ofChars? s

/-! ## Files -/

/-- The extension of a path's last name; a name that begins with its only point has none. -/
def extensionOf? (path : String) : Option String := do
  let name ← ((Workspace.namesOf path).filter fun name => !Workspace.isIdle name).getLast?
  let (stem, extension) ← Text.splitLast? '.' name.toList
  if stem.isEmpty then none else some (String.ofList extension)

/-- The path without slashes at its end. -/
def dropSlashes (path : String) : String :=
  String.ofList (path.toList.reverse.dropWhile (· == '/')).reverse

/-- The file for a path, and its format. -/
def findFile? (ws : Workspace) (path : String) : Option (Format × String) :=
  match ws.file? path with
  | some content => do
    let extension ← extensionOf? path
    let format ← extensions.lookup extension
    return (format, content)
  | none =>
    extensions.findSome? fun (extension, format) =>
      (ws.file? (dropSlashes path ++ "." ++ extension)).map (format, ·)

/-- Reads the layer of a file's text, which may begin with a byte order mark. -/
def readFile? : Format × String → Option (List (String × Setting))
  | (format, content) => format.read? (Toml.dropMark content.toList)

/-! ## Environment -/

/-- What the names of variables begin with, in lower case. -/
def variableMark : List Char := "iqe__".toList

/-- The value of a variable: a truth value, a number or a text. -/
def ofVariable (value : String) : Setting :=
  let s := value.toList
  -- Of the letters of these words none is the small letter of a letter beyond ASCII.
  match Protocol.lowerAscii value with
  | "true" => flag true
  | "false" => flag false
  | _ =>
    match Text.readInt64? s with
    | some n => whole n
    | none =>
      match Binary64.ofChars? s with
      | some x => real x
      | none => text value

/-- The key that a variable's name stands for, in small letters: two underscores part the names of
a path. -/
def keyOfVariable? (name : String) : Option String :=
  (Text.dropPiece? variableMark (Text.lower name.toList)).map fun rest =>
    String.ofList (Text.replace ['_', '_'] ['.'] rest)

/-- The layer of the environment. -/
def ofEnvironment (environment : List (String × String)) : List (String × Setting) :=
  environment.filterMap fun (name, value) =>
    (keyOfVariable? name).map fun key => (key, ofVariable value)

end ModelProbe.Setting
