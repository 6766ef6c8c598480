import ModelProbe.Duration
import ModelProbe.Shell.Format
import ModelProbe.Shell.Script
import ModelProbe.Workspace
/-!
# Running scripts

A script is run with arguments in a workspace. Each command changes what the run has done so far:
it writes to the two outputs, takes some time and leaves a status; zero means success. A script
may end itself, also by a signal, and then nothing after it runs.

* `Script.run`: what a script does.
* `runText`: what the text of a script does, which may be no script at all.
-/

namespace ModelProbe.Shell

/-- Where and for what a script is run. -/
structure Surroundings where
  workspace : Workspace
  /-- The name that the script was called by. -/
  name : String
  arguments : List String

/-- What a run has done so far. -/
structure Progress where
  stdout : List UInt8 := []
  stderr : List UInt8 := []
  status : Nat := 0
  /-- Whether the script has ended itself. -/
  isOver : Bool := false
  /-- The values of variables, the latest first. -/
  values : List (String × String) := []
  elapsed : Duration := ⟨0⟩
  deriving Inhabited

/-! ## Words -/

/-- The number of the script's process. Only the script itself can make use of it. -/
def processText : String := "1"

/-- The text of a parameter. -/
def valueOf (e : Surroundings) (p : Progress) : Parameter → String
  | .arguments _ => String.intercalate " " e.arguments
  | .count => toString e.arguments.length
  | .status => toString p.status
  | .process => processText
  | .argument 0 => e.name
  | .argument (n + 1) => e.arguments[n]?.getD ""
  | .named name => (p.values.lookup name).getD ""

/-- Words that are put together; the last one may still grow. -/
structure Fields where
  done : List (List Char) := []
  last : Option (List Char) := none

namespace Fields

/-- Ends the last word. -/
def close (f : Fields) : Fields := ⟨f.done ++ f.last.toList, none⟩

/-- Adds a text to the last word. -/
def addText (s : List Char) (f : Fields) : Fields :=
  { f with last := some (f.last.getD [] ++ s) }

/-- Adds words: the first goes on with the last one. -/
def addWords : List (List Char) → Fields → Fields
  | [], f => f
  | [w], f => f.addText w
  | w :: ws, f => addWords ws (f.addText w).close

/-- Adds a value that is not quoted; its blanks separate words. -/
def addValue (s : List Char) (f : Fields) : Fields :=
  let separates (c : Char) : Bool := isSpace c || c == '\n'
  let spaced := s.map fun c => if separates c then ' ' else c
  let f := if s.head?.any separates then f.close else f
  let f := addWords ((Text.splitOn ' ' spaced).filter fun w => !w.isEmpty) f
  if s.getLast?.any separates then f.close else f

/-- Adds a piece of a word. -/
def addPiece (e : Surroundings) (p : Progress) (f : Fields) : Piece → Fields
  | .text _ s => f.addText s
  | .value true (.arguments false) => f.addWords (e.arguments.map String.toList)
  | .value true parameter => f.addText (valueOf e p parameter).toList
  | .value false parameter => f.addValue (valueOf e p parameter).toList

end Fields

/-- The words that a word stands for: none, one or several. -/
def fieldsOf (e : Surroundings) (p : Progress) (w : Word) : List String :=
  (w.foldl (Fields.addPiece e p) {}).close.done.map String.ofList

/-- The text that a word stands for where it is not divided. -/
def textOf (e : Surroundings) (p : Progress) (w : Word) : List Char :=
  w.flatMap fun
    | .text _ s => s
    | .value _ parameter => (valueOf e p parameter).toList

/-- The name and the value of a word that sets a variable. -/
def assignment? (w : Word) : Option (String × Word) :=
  let name := (w.map bareChars?).takeWhile fun
    | some s => s.all inName
    | none => false
  let chars := (name.filterMap id).flatten
  match w.drop name.length with
  | .text false ['='] :: value =>
    if chars.head?.any startsName then some (String.ofList chars, value) else none
  | _ => none

/-! ## Commands -/

/-- What one command does. -/
structure Effect where
  stdout : List UInt8 := []
  stderr : List UInt8 := []
  status : Nat := 0
  ends : Bool := false
  elapsed : Duration := ⟨0⟩
  deriving Inhabited

/-- The bytes of a message's line. -/
def lineBytes (s : String) : List UInt8 := Text.utf8Bytes (s.toList ++ ['\n'])

/-- Writes files one after another; `-` stands for what the command reads. -/
def concatenate (ws : Workspace) (input : List UInt8) : List String → Effect
  | [] => {}
  | name :: names =>
    let rest := concatenate ws input names
    if name = "-" then { rest with stdout := input ++ rest.stdout }
    else
      match ws.read name with
      | .ok text => { rest with stdout := Text.utf8Bytes text.toList ++ rest.stdout }
      | .error fault =>
        { rest with
          stderr := lineBytes ("cat: " ++ name ++ ": " ++ fault.reason) ++ rest.stderr
          status := 1 }

/-- The duration that a decimal number of seconds writes. -/
def secondsOf? (s : String) : Option Duration :=
  let (whole, part) := (Text.splitFirst? '.' s.toList).getD (s.toList, [])
  if (whole ++ part).isEmpty || !(whole ++ part).all Char.isDigit then none
  else
    let places := (part ++ ['0', '0', '0']).take 3
    some ⟨Text.digitsValue whole * 1000 + Text.digitsValue places⟩

/-- What a command does, by its name. -/
def effectOf (e : Surroundings) (p : Progress) (input : List UInt8) (name : String)
    (args : List String) : Effect :=
  match name, args with
  | ":", _ => {}
  | "true", _ => {}
  | "false", _ => { status := 1 }
  | "echo", args => { stdout := echoBytes args }
  | "printf", format :: args =>
    match formatBytes format args with
    | some bytes => { stdout := bytes }
    | none =>
      { stderr := lineBytes (e.name ++ ": printf: " ++ format ++ ": invalid directive")
        status := 2 }
  | "cat", [] => { stdout := input }
  | "cat", names => concatenate e.workspace input names
  | "exit", [] => { status := p.status, ends := true }
  | "exit", n :: _ =>
    match Text.readBelow? (Nat.pow 2 31) n.toList with
    | some n => { status := n % 256, ends := true }
    | none =>
      { stderr := lineBytes (e.name ++ ": exit: Illegal number: " ++ n), status := 2
        ends := true }
  | "kill", args =>
    if args.contains "-0" || !args.contains processText then {}
    else { status := 128, ends := true }
  | "sleep", [time] =>
    match secondsOf? time with
    | some time => { elapsed := time }
    | none => { status := 1 }
  | name, _ => { stderr := lineBytes (e.name ++ ": " ++ name ++ ": not found"), status := 127 }

/-- Where the two outputs of a command go. -/
structure Sinks where
  stdout : Sink := .stdout
  stderr : Sink := .stderr

/-- Follows a redirection; one to an output goes where that output goes by then. -/
def Sinks.follow (s : Sinks) (r : Redirect) : Sinks :=
  let resolve : Sink → Sink
    | .stdout => s.stdout
    | .stderr => s.stderr
    | .nowhere => .nowhere
  match r with
  | .stdout sink => { s with stdout := resolve sink }
  | .stderr sink => { s with stderr := resolve sink }

/-- Writes bytes to a sink. -/
def Progress.write (p : Progress) (bytes : List UInt8) : Sink → Progress
  | .stdout => { p with stdout := p.stdout ++ bytes }
  | .stderr => { p with stderr := p.stderr ++ bytes }
  | .nowhere => p

/-- What a run has done after an effect. -/
def Progress.add (p : Progress) (sinks : Sinks) (effect : Effect) : Progress :=
  let p := (p.write effect.stdout sinks.stdout).write effect.stderr sinks.stderr
  { p with
    status := effect.status, isOver := effect.ends
    elapsed := ⟨p.elapsed.milliseconds + effect.elapsed.milliseconds⟩ }

/-- Sets a variable. -/
def Progress.assign (p : Progress) (name value : String) : Progress :=
  { p with values := (name, value) :: p.values }

/-- Runs a command. Variables that are set in front of a command's name are not seen by it. -/
def Command.run (e : Surroundings) (c : Command) (p : Progress) : Progress :=
  let settings := (c.words.map assignment?).takeWhile Option.isSome
  match (c.words.drop settings.length).flatMap (fieldsOf e p) with
  | [] =>
    let p := (settings.filterMap id).foldl (fun p (name, value) =>
      p.assign name (String.ofList (textOf e p value))) p
    { p with status := 0 }
  | name :: args =>
    let input := Text.utf8Bytes ((c.input.map (textOf e p)).getD [])
    p.add (c.redirects.foldl Sinks.follow {}) (effectOf e p input name args)

/-! ## Scripts -/

/-- Whether a command with this link runs. -/
def Progress.goesOn (p : Progress) (link : Link) : Bool :=
  !p.isOver &&
    match link with
    | .always => true
    | .afterSuccess => p.status == 0
    | .afterFailure => p.status != 0

/-- Runs a script. -/
def Script.run (e : Surroundings) : Script → Progress → Progress
  | .nothing, p => p
  | .command link c rest, p => run e rest (if p.goesOn link then c.run e p else p)
  | .forEach link name items body rest, p =>
    if !p.goesOn link then run e rest p
    else
      let values := items.flatMap (fieldsOf e p)
      run e rest <| values.foldl (fun p value =>
        if p.isOver then p else run e body (p.assign name value)) { p with status := 0 }

/-- Runs the text of a script; a text that is no script fails. -/
def runText (e : Surroundings) (text : String) : Progress :=
  match Script.ofText? text with
  | some script => script.run e {}
  | none => { stderr := lineBytes (e.name ++ ": Syntax error"), status := 2 }

end ModelProbe.Shell
