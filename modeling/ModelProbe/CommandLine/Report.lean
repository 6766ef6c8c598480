import ModelProbe.Failure
import ModelProbe.Text.Search
/-!
# Reports

How the command line says that something went wrong: a message, and below it the causes of what it
says, each indented. Several causes are numbered.
-/

namespace ModelProbe.CommandLine

/-- Something that went wrong, with its causes, the nearest first. -/
structure Report where
  message : String
  causes : List String := []
  /-- The failure that is reported, where an operation has failed. -/
  failure : Option Failure := none
  deriving DecidableEq, Repr

namespace Report

/-- A failure and, where the message does not say all, what lies behind it. -/
def chainOf (e : Failure) : List String :=
  match e with
  | .unreadable => [e.message, "unreadable"]
  | _ => [e.message]

/-- The report of a failure. -/
def ofFailure (e : Failure) : Report := ⟨e.message, (chainOf e).tail, some e⟩

/-- The report of what could not be done because of a failure. -/
def because (message : String) (e : Failure) : Report := ⟨message, chainOf e, some e⟩

/-- The text with every line indented, the first by `first`. -/
def indented (first other : String) (text : String) : String :=
  match (Text.splitOn '\n' text.toList).map String.ofList with
  | [] => first
  | line :: lines => String.intercalate "\n" ((first ++ line) :: lines.map (other ++ ·))

/-- The number of a cause, in front of its first line. -/
def numberText (n : Nat) : String :=
  let digits := Nat.toDigits 10 n
  String.ofList (List.replicate (5 - digits.length) ' ' ++ digits) ++ ": "

/-- The text of the causes. -/
def causesText : List String → String
  | [] => ""
  | [cause] => "\n\nCaused by:\n" ++ indented "    " "    " cause
  | causes =>
    "\n\nCaused by:" ++ String.join (causes.mapIdx fun i cause =>
      "\n" ++ indented (numberText i) "       " cause)

/-- The lines of a report. -/
def text (r : Report) : String := "Error: " ++ r.message ++ causesText r.causes ++ "\n"

end Report

end ModelProbe.CommandLine
