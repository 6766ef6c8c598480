import ModelProbe.CommandLine.Run
import ModelProbe.Shell.Launcher
/-!
# The command line

Gathers the files that a run may look at and the variables of the environment, runs the command
line on them, and shows what it shows. Programs are scripts, and nobody is reached over the network.
-/

namespace ModelProbe.CommandLine

/-- How many directories may lie within each other. -/
def maxDepth : Nat := 16

/-- The file at a path, which is made one from the root; what is no text is left out. -/
def fileAt (path : String) : IO (List (String × String)) := do
  try
    let path ← IO.FS.realPath path
    return [(path.toString, ← IO.FS.readFile path)]
  catch _ => return []

/-- The files below a directory's item. -/
def filesOf (depth : Nat) (item : IO.FS.DirEntry) : IO (List (String × String)) := do
  if ← item.path.isDir then
    match depth with
    | 0 => return []
    | depth + 1 =>
      let inner ← (← item.path.readDir).toList.mapM (filesOf depth)
      return inner.flatten
  else fileAt item.path.toString

/-- The variables that a text such as `NAME=value` lists, with NUL between them. -/
def variablesOf (text : String) : List (String × String) :=
  (Text.splitOn '\x00' text.toList).filterMap fun line =>
    (Text.splitFirst? '=' line).map fun (name, value) =>
      (String.ofList name, String.ofList value)

/-- The paths of files that an argument may name, after the name of an option or alone. -/
def pathsOf (arg : String) : List String :=
  arg :: ((Text.splitFirst? '=' arg.toList).map fun parts => String.ofList parts.2).toList

/-- The workspace that a run with these arguments finds: the files below the working directory, the
user's settings file, and the files that the arguments name. -/
def findWorkspace (args : List String) : IO Workspace := do
  let here ← IO.FS.realPath (← IO.currentDir)
  let below ← (← here.readDir).toList.mapM (filesOf maxDepth)
  let environment ← try IO.FS.readFile "/proc/self/environ" catch _ => pure ""
  let directory := (Workspace.namesOf here.toString).filter fun name => !Workspace.isIdle name
  let bare := Workspace.ofFiles directory [] (variablesOf environment)
  let named ← (Settings.userPath bare :: args.flatMap pathsOf).mapM fileAt
  return Workspace.ofFiles directory (below ++ named).flatten (variablesOf environment)

end ModelProbe.CommandLine

open ModelProbe.CommandLine in
/-- Runs the command line. -/
def main (args : List String) : IO UInt32 := do
  let ws ← findWorkspace args
  let outcome := run ws { launch := ModelProbe.Shell.launcher ws } args
  (← IO.getStdout).putStr outcome.stdout
  (← IO.getStderr).putStr outcome.stderr
  return outcome.status.toUInt32
