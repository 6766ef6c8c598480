import ModelProbe.CommandLine.Options
import ModelProbe.Protocol
import ModelProbe.Text.Digits
/-!
# Arguments

What the command line asks for: to list a catalog, to show a request, or to send one. Options that
exclude each other are alternatives of one type here.

* `Arguments.ofList`: reads the arguments of the command line.
-/

namespace ModelProbe.CommandLine

/-- Where the service is. -/
inductive Service
  /-- An address, or a host with or without a port. -/
  | address (text : String)
  /-- A file with the status of the service. -/
  | statusFile (path : String)
  deriving DecidableEq, Repr

/-- What is asked of the model. -/
inductive Question
  | text (s : String)
  /-- The runtime's default query. -/
  | byDefault
  | missing
  deriving DecidableEq, Repr

/-- What the caller expects. -/
inductive Expected
  | text (s : String)
  | denied
  /-- The output of the default query, where that is asked. -/
  | byDefault
  deriving DecidableEq, Repr

/-- What makes a request. -/
structure RequestArguments where
  runtime : String
  inferenceType : String
  protocol : Protocol
  model : String
  service : Service
  question : Question := .missing
  token : Option String := none
  insecure : Bool := false
  plainHttp : Bool := false
  port : Option UInt16 := none
  deriving DecidableEq, Repr

/-- What makes a call. -/
structure QueryArguments where
  request : RequestArguments
  expected : Expected := .byDefault
  iterations : Nat := 1
  atOnce : Bool := false
  /-- How many seconds a call may take, instead of what the settings say. -/
  timeoutSeconds : Option Nat := none
  deriving DecidableEq, Repr

/-- What is to be done. -/
inductive Action
  /-- List the catalog, or one runtime of it. -/
  | list (runtime : Option String)
  /-- Show a request without sending it. -/
  | render (r : RequestArguments)
  /-- Send a request, show the answer and check it. -/
  | query (q : QueryArguments)
  deriving DecidableEq, Repr

/-- The arguments of the command line. -/
structure Arguments where
  /-- The settings file to read instead of the user's. -/
  settingsPath : Option String := none
  action : Action
  deriving DecidableEq, Repr

/-! ## Tables -/

/-- Reads a port. -/
def readPort? (s : String) : Option UInt16 :=
  match Text.readInt64? s.toList with
  | some n => if 0 ≤ n && n < 65536 then some n.toNat.toUInt16 else none
  | none => none

/-- Reads a number of 64 bits. -/
def readCount? (s : String) : Option Nat := Text.readBelow? (Nat.pow 2 64) s.toList

/-- An option with any value. -/
def anyValue : OptionKind := .value fun _ => true

/-- An option with a path; a path is not empty. -/
def pathValue : OptionKind := .value fun s => !s.isEmpty

/-- The options that stand before a command or among its own. -/
def globalOptions : OptionTable := [("debug", .flag), ("config", pathValue)]

/-- The options that a request takes. -/
def requestOptions : OptionTable :=
  [("runtime", anyValue), ("inference-type", anyValue),
    ("protocol", .value fun s => (Protocol.ofName? s).isSome), ("model", anyValue),
    ("url", anyValue), ("status-file", pathValue), ("text", anyValue), ("default-query", .flag),
    ("token", anyValue), ("insecure", .flag), ("plain-http", .flag),
    ("port", .value fun s => (readPort? s).isSome)]

/-- The options that a call takes besides those of its request. -/
def queryOptions : OptionTable :=
  [("expect", anyValue), ("unauthorized", .flag),
    ("iterations", .value fun s => (readCount? s).isSome), ("parallel", .flag),
    ("timeout", .value fun s => (readCount? s).isSome)]

/-- The options of a command by its name. -/
def optionsOf? : String → Option OptionTable
  | "catalog" => some [("runtime", anyValue)]
  | "render" => some requestOptions
  | "query" => some (requestOptions ++ queryOptions)
  | _ => none

/-! ## Reading -/

/-- Where the service is, when exactly one option says so. -/
def serviceOf? (given : Given) : Option Service :=
  match given.value? "url", given.value? "status-file" with
  | some text, none => some (.address text)
  | none, some path => some (.statusFile path)
  | _, _ => none

/-- What is asked, unless two options say so. -/
def questionOf? (given : Given) : Option Question :=
  match given.value? "text", given.has "default-query" with
  | some _, true => none
  | some s, false => some (.text s)
  | none, true => some .byDefault
  | none, false => some .missing

/-- What is expected, unless two options say so. -/
def expectedOf? (given : Given) : Option Expected :=
  match given.value? "expect", given.has "unauthorized" with
  | some _, true => none
  | some s, false => some (.text s)
  | none, true => some .denied
  | none, false => some .byDefault

/-- What makes a request, when everything that one needs is given. -/
def requestOf? (given : Given) : Option RequestArguments := do
  return {
    runtime := ← given.value? "runtime"
    inferenceType := ← given.value? "inference-type"
    protocol := ← Protocol.ofName? (← given.value? "protocol")
    model := ← given.value? "model"
    service := ← serviceOf? given
    question := ← questionOf? given
    token := given.value? "token"
    insecure := given.has "insecure"
    plainHttp := given.has "plain-http"
    port := (given.value? "port").bind readPort? }

/-- What makes a call, when everything that one needs is given. -/
def queryOf? (given : Given) : Option QueryArguments := do
  return {
    request := ← requestOf? given
    expected := ← expectedOf? given
    iterations := ((given.value? "iterations").bind readCount?).getD 1
    atOnce := given.has "parallel"
    timeoutSeconds := (given.value? "timeout").bind readCount? }

/-- What is to be done by a command with these options. -/
def actionOf? (command : String) (given : Given) : Option Action :=
  match command with
  | "catalog" => some (.list (given.value? "runtime"))
  | "render" => (requestOf? given).map .render
  | "query" => (queryOf? given).map .query
  | _ => none

/-- What `help` with these names leads to: help for commands that there are. -/
def helpFor (names : List String) : Refusal :=
  let isCommand (name : String) : Bool := (optionsOf? name).isSome
  match names with
  | [] => .help
  | [name] => if isCommand name || name == "help" then .help else .misuse
  | ["help", name] => if isCommand name then .help else .misuse
  | _ => .misuse

/-- Reads the arguments of the command line. Of two settings files the one that is named after the
command counts. -/
def Arguments.ofList (args : List String) : Except Refusal Arguments := do
  let (before, rest) ← readOptions globalOptions [] args
  match rest with
  | [] => throw .misuse
  | "help" :: names => throw (helpFor names)
  | command :: rest =>
    let some table := optionsOf? command | throw .misuse
    let (given, extra) ← readOptions (globalOptions ++ table) [] rest
    if !extra.isEmpty then throw .misuse
    match actionOf? command given with
    | some action =>
      return { settingsPath := (given.value? "config").or (before.value? "config")
               action := action }
    | none => throw .misuse

end ModelProbe.CommandLine
