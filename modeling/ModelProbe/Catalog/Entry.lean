import ModelProbe.SortedMap
import ModelProbe.Text.Blank
import ModelProbe.Text.Search
/-!
# Catalog entries

An entry holds the templates of a request and says where in the response the text stands.
-/

namespace ModelProbe

/-- The request templates for one runtime, inference type and protocol. -/
structure Entry where
  /-- The URL path of HTTP, or the full method name of gRPC. -/
  endpoint : String
  /-- A header line, or a bare media type. -/
  header : String
  body : String
  /-- The keys of the response under their logical names. -/
  fields : SortedMap String String := .empty
  /-- Further transport options, `key=value` with blanks between them. -/
  args : Option String := none
  deriving DecidableEq, Inhabited

namespace Entry

/-- The key that is mapped to a logical name, unless it is empty. -/
def mapped? (e : Entry) (name : String) : Option String :=
  (e.fields.get? name).filter fun key => !key.isEmpty

/-- The key of the generated text, when the runtime returns it as a field. -/
def textField? (e : Entry) : Option String := e.mapped? "response_text"

/-- The key of what contains the payload. -/
def container? (e : Entry) : Option String := e.mapped? "response"

/-- The options as keys and values; a bare word has an empty value. -/
def transportArgs (e : Entry) : List (String × String) :=
  (Text.words (e.args.getD "").toList).map fun word =>
    match Text.splitFirst? '=' word with
    | some (key, value) => (String.ofList key, String.ofList value)
    | none => (String.ofList word, "")

end Entry

/-- The query that stands for "the default query" of a runtime. -/
structure DefaultQuery where
  /-- The query's text; `@path` stands for a file's contents. -/
  text : String
  /-- The text that is expected, or a pattern. -/
  output : String
  /-- Whether the output is a pattern. -/
  isPattern : Bool := false
  deriving DecidableEq, Repr, Inhabited

end ModelProbe
