import ModelProbe.Answer
import ModelProbe.Answer.Denial
import ModelProbe.Answer.Locate
import ModelProbe.Answer.Stream
import ModelProbe.Catalog.Entry
import ModelProbe.Failure
import ModelProbe.Json.Writer
import ModelProbe.Pattern.Reader
import ModelProbe.Pattern.Search
import ModelProbe.Template
/-!
# Verdicts

What a call is expected to bring, and whether an answer does. The text of an answer stands under
the key that the entry maps, or is put together from streamed chunks when it maps none.
-/

namespace ModelProbe

/-- What a call is expected to bring. -/
inductive Expectation
  /-- Exactly this text. -/
  | text (expected : String)
  /-- A text in which the pattern is found. -/
  | pattern (p : Pattern)
  /-- That the call is turned away. -/
  | denied

namespace Expectation

/-- What a default query expects of a model; in a pattern, the query's placeholders are filled. -/
def ofDefaultQuery (limit : Pattern.Limit) (query : DefaultQuery) (model : String) :
    Except Failure Expectation :=
  if query.isPattern then
    match Pattern.ofText? limit ((Bindings.ofQuery model query.text).fill query.output) with
    | some p => .ok (pattern p)
    | none => .error (.invalidCatalog .notPattern)
  else .ok (text query.output)

end Expectation

namespace Answer

/-- The values in which a text field is looked for: the table, and the values that stand in a row
under `output`. -/
def roots (a : Answer) : List Json :=
  .object a.table.toList ::
    match a.get? outputKey with
    | some (.string output) => Json.rowOfChars output.toList
    | _ => []

/-- A string's characters, or the compact text of another value. -/
def textOf : Json → String
  | .string s => s
  | v => v.compact

/-- The text under a field of one value, inside a container when one is given. -/
def fieldText? (container : Option String) (field : String) (root : Json) : Option String :=
  match container with
  | none => (root.locate? field).map textOf
  | some key => (root.locate? key).bind fun scope => (scope.locate? field).map textOf

/-- The text that the runtime gave. -/
def text (entry : Entry) (a : Answer) : Except Failure String :=
  match entry.textField? with
  | some field =>
    match a.roots.findSome? (fieldText? entry.container? field) with
    | some s => .ok s
    | none => .error (.textNotFound (some field) a.raw)
  | none =>
    match Stream.text? a.raw.toList with
    | some s => .ok (String.ofList s)
    | none => .error (.textNotFound none a.raw)

/-- Whether a call with this token was turned away for the right reason. -/
def checkDenied (token : Option String) (a : Answer) : Except Failure Unit :=
  match Denial.reason? a.raw.toList with
  | none => .error (.reasonMissing a.raw)
  | some reason =>
    let hasToken := token.any fun t => !t.isEmpty
    if Denial.accepts hasToken reason then .ok ()
    else .error (.reasonMismatch (Denial.expected hasToken) (String.ofList reason))

/-- Checks an answer against what is expected of a call with this token. -/
def check (entry : Entry) (expected : Expectation) (token : Option String) (a : Answer) :
    Except Failure Unit :=
  match expected with
  | .denied => a.checkDenied token
  | .text expected =>
    match a.text entry with
    | .error e => .error e
    | .ok actual => if actual = expected then .ok () else .error (.textMismatch expected actual)
  | .pattern p =>
    let subject := if entry.textField?.isSome then a.text entry else .ok a.raw
    match subject with
    | .error e => .error e
    | .ok subject =>
      if p.tree.fits subject.toList then .ok () else .error (.textMismatch p.text subject)

/-- Checks an answer for a text, or, when the caller is not authorized, for a denial. -/
def checkText (entry : Entry) (expected : String) (authorized : Option Bool)
    (token : Option String) (a : Answer) : Except Failure Unit :=
  a.check entry (if authorized = some false then .denied else .text expected) token

end Answer

end ModelProbe
