import ModelProbe.Shell.Run
import ModelProbe.Transport.Program
/-!
# Starting scripts

The programs of a workspace are its scripts and some that every system has. The name of a program
is a path when it has a slash in it. Of the files of the workspace those can be started that begin
with `#!`.

* `startProgram`: what a program does with its arguments, or why it cannot be started.
* `launcher`: starts the programs of a workspace.
-/

namespace ModelProbe.Shell

/-- The fewest milliseconds that a program takes. -/
def startTime : Nat := 1

/-- What a program shows when it has written these bytes. -/
def replyOf (status : Nat) (stdout stderr : List UInt8) (time : Duration) : Reply where
  after := ⟨startTime + time.milliseconds⟩
  outcome := .ok
    { success := status == 0
      stdout := String.ofList (Text.utf8Lossy stdout)
      stderr := String.ofList (Text.utf8Lossy stderr) }

/-- What a program does that every system has. -/
def commonProgram? (name : String) (args : List String) : Option Reply :=
  match name with
  | "true" => some (replyOf 0 [] [] ⟨0⟩)
  | "false" => some (replyOf 1 [] [] ⟨0⟩)
  | "echo" => some (replyOf 0 (lineBytes (String.intercalate " " args)) [] ⟨0⟩)
  | _ => none

/-- The programs that run scripts. -/
def interpreters : List String :=
  ["/bin/sh", "/bin/bash", "/bin/dash", "/usr/bin/sh", "/usr/bin/bash", "/usr/bin/dash",
    "/usr/bin/env sh", "/usr/bin/env bash"]

/-- The line of a script that names its interpreter, without the mark before it. -/
def interpreter? (text : String) : Option String :=
  (Text.dropPiece? ['#', '!'] text.toList).map fun rest =>
    String.ofList (Text.trim (rest.takeWhile (· != '\n')))

/-- Runs the file at a path as a script. -/
def startFile (ws : Workspace) (path : String) (args : List String) : Except String Reply :=
  match ws.look path with
  | .nothing fault => .error fault.message
  | .directory => .error PathFault.forbidden.message
  | .file text =>
    match interpreter? text with
    | none => .error PathFault.forbidden.message
    | some interpreter =>
      if interpreters.contains interpreter then
        let p := runText ⟨ws, path, args⟩ text
        .ok (replyOf p.status p.stdout p.stderr p.elapsed)
      else .error PathFault.absent.message

/-- What a program does with its arguments, or why it cannot be started. -/
def startProgram (ws : Workspace) (program : String) (args : List String) : Except String Reply :=
  if program.toList.contains '/' then startFile ws program args
  else if program = "." || program = ".." then .error PathFault.forbidden.message
  else
    match commonProgram? program args with
    | some reply => .ok reply
    | none => .error PathFault.absent.message

/-- Starts the programs of a workspace, which keep nothing from one call to the next. -/
def launcher (ws : Workspace) : Launcher := fun _ => startProgram ws

end ModelProbe.Shell
