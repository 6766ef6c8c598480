import ModelProbe.SortedMap
import ModelProbe.Text.Search
/-!
# Workspaces

The files, the working directory and the variables of the environment, as far as anything depends
on them. Paths have slashes between their names, and one with a slash in front goes from the root;
`.` and `..` have their usual meaning.

* `Workspace.look`: what stands at a path.
* `Workspace.read`: the text of the file at a path, or why it cannot be read.
-/

namespace ModelProbe

/-- Files, a directory among them to work in, and the environment. -/
structure Workspace where
  /-- The files by their paths from the root, without a slash in front and without `.` and `..`. -/
  files : SortedMap String String := .empty
  /-- The names on the way from the root to the working directory. -/
  directory : List String := []
  /-- The variables of the environment. -/
  environment : List (String × String) := []
  deriving DecidableEq, Inhabited

/-- Why a path leads to no file that can be used. -/
inductive PathFault
  | absent
  /-- The path goes on below a file. -/
  | belowFile
  /-- A directory stands where a file should. -/
  | isDirectory
  /-- The file may not be used in this way. -/
  | forbidden
  /-- The path has a character that no path can have. -/
  | impossible
  deriving DecidableEq, Repr, Inhabited

/-- The reason that a fault gives. -/
def PathFault.reason : PathFault → String
  | absent => "No such file or directory"
  | belowFile => "Not a directory"
  | isDirectory => "Is a directory"
  | forbidden => "Permission denied"
  | impossible => "file name contained an unexpected NUL byte"

/-- The number that the system has for a fault that it finds itself. -/
def PathFault.number? : PathFault → Option Nat
  | absent => some 2
  | belowFile => some 20
  | isDirectory => some 21
  | forbidden => some 13
  | impossible => none

/-- What is said about such a path. -/
def PathFault.message (fault : PathFault) : String :=
  match fault.number? with
  | some n => fault.reason ++ " (os error " ++ toString n ++ ")"
  | none => fault.reason

/-- What stands at a path. -/
inductive Place
  | file (text : String)
  | directory
  | nothing (fault : PathFault)
  deriving DecidableEq, Repr, Inhabited

namespace Workspace

/-- The names of a path. -/
def namesOf (path : String) : List String :=
  (Text.splitOn '/' path.toList).map String.ofList

/-- The path of a row of names. -/
def pathOf (names : List String) : String := String.intercalate "/" names

/-- Whether the name adds nothing to a path. -/
def isIdle (name : String) : Bool := name.isEmpty || name == "."

/-- Whether a path goes from the root. -/
def isAbsolute (path : String) : Bool := path.toList.head? == some '/'

/-- The workspace with these files and variables around a working directory. -/
def ofFiles (directory : List String) (files environment : List (String × String)) :
    Workspace where
  files := .ofList (files.map fun (path, text) =>
    let above := if isAbsolute path then [] else directory
    (pathOf (above ++ (namesOf path).filter fun name => !isIdle name), text))
  directory := directory
  environment := environment

/-- Whether a directory has these names: the root, those on the way to the working directory, and
those above files. -/
def isDirectory (ws : Workspace) (names : List String) : Bool :=
  names.isPrefixOf ws.directory ||
    ws.files.keys.any fun key =>
      names.length < (namesOf key).length && names.isPrefixOf (namesOf key)

/-- What stands at a path inside a directory, which is given by its names. Nothing stands above the
root, so a way up from there stays there. -/
def walk (ws : Workspace) (inside : List String) : List String → Place
  | [] => .directory
  | name :: rest =>
    if isIdle name then walk ws inside rest
    else if name == ".." then walk ws inside.dropLast rest
    else
      let here := inside ++ [name]
      match ws.files.get? (pathOf here) with
      | some text => if rest.isEmpty then .file text else .nothing .belowFile
      | none => if ws.isDirectory here then walk ws here rest else .nothing .absent

/-- What stands at a path. -/
def look (ws : Workspace) (path : String) : Place :=
  if path.toList.contains '\x00' then .nothing .impossible
  else if path.isEmpty then .nothing .absent
  else ws.walk (if isAbsolute path then [] else ws.directory) (namesOf path)

/-- The text of the file at a path, or why it cannot be read. -/
def read (ws : Workspace) (path : String) : Except PathFault String :=
  match ws.look path with
  | .file text => .ok text
  | .directory => .error .isDirectory
  | .nothing fault => .error fault

/-- The text of the file at a path. -/
def file? (ws : Workspace) (path : String) : Option String := (ws.read path).toOption

/-- The value of a variable; of two with one name the later counts. -/
def value? (ws : Workspace) (name : String) : Option String :=
  (ws.environment.reverse.find? fun (key, _) => key == name).map Prod.snd

/-- A path below a directory. -/
def join (directory path : String) : String :=
  if directory.isEmpty || directory.endsWith "/" then directory ++ path
  else directory ++ "/" ++ path

end Workspace

end ModelProbe
