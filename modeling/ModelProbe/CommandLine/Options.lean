import ModelProbe.Text.Search
/-!
# Options

The arguments of a command are options by name, `--name`, some with a value, `--name value` or
`--name=value`. A value that is an argument of its own does not look like an option. No option is
given twice, and the first argument that is no option ends them.

* `readOptions`: reads the options at the start of arguments.
-/

namespace ModelProbe.CommandLine

/-- What an option takes. -/
inductive OptionKind
  | flag
  /-- A value of a certain form. -/
  | value (fits : String → Bool)

/-- The options of a command by their names. -/
abbrev OptionTable := List (String × OptionKind)

/-- The options that were given, each with its value; flags have none. -/
abbrev Given := List (String × Option String)

/-- Why a command is not carried out. -/
inductive Refusal
  /-- The arguments make no sense. -/
  | misuse
  /-- Help was asked for. -/
  | help
  deriving DecidableEq, Repr

/-- Whether the argument looks like an option. A single hyphen does not. -/
def looksLikeOption (arg : String) : Bool := arg.startsWith "-" && arg != "-"

/-- The name of an option and the value after its equals sign. -/
def splitOption? (arg : String) : Option (String × Option String) :=
  (Text.dropPiece? ['-', '-'] arg.toList).map fun rest =>
    match Text.splitFirst? '=' rest with
    | some (name, value) => (String.ofList name, some (String.ofList value))
    | none => (String.ofList rest, none)

/-- Adds an option that was not given before. -/
def addOption (given : Given) (name : String) (value : Option String) : Except Refusal Given :=
  if (given.lookup name).isSome then .error .misuse else .ok ((name, value) :: given)

/-- Whether an argument that is not an option by its name asks for help. -/
def asksForHelp (arg : String) : Bool := arg == "--help" || arg.startsWith "-h"

/-- Reads options, and the arguments after them. After `--` there are none. -/
def readOptions (table : OptionTable) (given : Given) :
    List String → Except Refusal (Given × List String)
  | [] => .ok (given, [])
  | arg :: rest =>
    if asksForHelp arg then .error .help
    else if arg = "--" then if rest.isEmpty then .ok (given, []) else .error .misuse
    else if !looksLikeOption arg then .ok (given, arg :: rest)
    else do
      let some (name, attached) := splitOption? arg | throw .misuse
      match table.lookup name, attached, rest with
      | some .flag, none, rest => readOptions table (← addOption given name none) rest
      | some (.value fits), some value, rest =>
        if fits value then readOptions table (← addOption given name (some value)) rest
        else throw .misuse
      | some (.value fits), none, value :: rest =>
        if fits value && !looksLikeOption value then
          readOptions table (← addOption given name (some value)) rest
        else throw .misuse
      | _, _, _ => throw .misuse

namespace Given

/-- Whether an option was given. -/
def has (given : Given) (name : String) : Bool := (given.lookup name).isSome

/-- The value of an option, if it was given with one. -/
def value? (given : Given) (name : String) : Option String := (given.lookup name).bind id

end Given

end ModelProbe.CommandLine
