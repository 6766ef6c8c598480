import ModelProbe.Catalog.Builtin
import ModelProbe.Catalog.Draft
import ModelProbe.Setting.Convert
import ModelProbe.Setting.Source
/-!
# Where catalogs come from

A catalog is read from a TOML text or from a file in any format of settings. A runtime's
containers and its default query are converted where that makes sense; everything else below a
runtime must have exactly the type that is asked for.

* `Catalog.ofToml`: the catalog of a TOML text.
* `Catalog.load`: the catalog of a file.
-/

namespace ModelProbe

/-- The default query with these fields. -/
def DefaultQuery.ofFields? (text output : Setting) (isPattern : Option Setting) :
    Option DefaultQuery := do
  return { text := ← text.asText?, output := ← output.asText?,
           isPattern := ← Setting.fieldOr? false Setting.asFlag? isPattern }

/-- A default query is written as a table or as the list of its fields. In a table its text goes
by one of two names. -/
def DefaultQuery.ofSetting? : Setting → Option DefaultQuery
  | .list (text :: output :: more) => ofFields? text output more.head?
  | .table ms => do
    let text ← match SortedMap.lookup "query_text" ms, SortedMap.lookup "query_input" ms with
      | some text, none => some text
      | none, some text => some text
      | _, _ => none
    ofFields? text (← SortedMap.lookup "query_output" ms) (SortedMap.lookup "use_regex" ms)
  | _ => none

/-- The members of a table with their values read. -/
def Setting.readMembers? {α : Type} (f : Setting → Option α) (ms : List (String × Setting)) :
    Option (List (String × α)) :=
  ms.mapM fun (key, v) => (f v).map (key, ·)

namespace EntryDraft

/-- A text as it stands. -/
def exactText? : Setting → Option String
  | .text s => some s
  | _ => none

/-- A text as it stands, or nothing. -/
def textOf? : Setting → Option (Option String) := Setting.asOptional? exactText?

/-- The names of the response's fields. -/
def exactFields? (v : Setting) : Option (SortedMap String String) := do
  return .ofList (← Setting.readMembers? exactText? (← v.asTable?))

/-- The names of the response's fields, or nothing. -/
def fieldsOf? : Setting → Option (Option (SortedMap String String)) :=
  Setting.asOptional? exactFields?

/-- An entry is written as a table or as the list of its fields, of which only the last may be
left out. -/
def ofSetting? (v : Setting) : Option EntryDraft := do
  match v with
  | .list vs => if vs.length < 4 || 5 < vs.length then none
  | _ => pure ()
  let [endpoint, header, body, fields, args] ←
    v.fieldValues? ["endpoint", "header", "body", "response_fields_map", "args"] | none
  return { endpoint := ← Setting.fieldOr? none textOf? endpoint
           header := ← Setting.fieldOr? none textOf? header
           body := ← Setting.fieldOr? none textOf? body
           fields := ← Setting.fieldOr? none fieldsOf? fields
           args := ← Setting.fieldOr? none textOf? args }

end EntryDraft

namespace RuntimeDraft

/-- The key of a runtime's containers. -/
def containersKey : String := "containers"

/-- The key of a runtime's default query. -/
def defaultQueryKey : String := "default_query_model"

/-- The protocols of an inference type. -/
def protocolsOf? (v : Setting) : Option (SortedMap String EntryDraft) := do
  return .ofList (← Setting.readMembers? EntryDraft.ofSetting? (← v.asTable?))

/-- A runtime: what is neither its containers nor its default query is an inference type. -/
def ofSetting? (v : Setting) : Option RuntimeDraft := do
  let ms ← v.asTable?
  let types := ms.filter fun (key, _) => key != containersKey && key != defaultQueryKey
  return {
    containers := ← Setting.fieldOr? [] (Setting.asList? Setting.asText?)
      (SortedMap.lookup containersKey ms)
    defaultQuery := ← Setting.fieldOr? none (Setting.asOptional? DefaultQuery.ofSetting?)
      (SortedMap.lookup defaultQueryKey ms)
    inferenceTypes := .ofList (← Setting.readMembers? protocolsOf? types) }

end RuntimeDraft

namespace Catalog

/-- The draft that the members of a layer write. -/
def draftOf? (layer : List (String × Setting)) : Option CatalogDraft := do
  return .ofList (← Setting.readMembers? RuntimeDraft.ofSetting? (Setting.ofLayer layer).members)

/-- The catalog of a layer, when there is one. -/
def ofLayer (layer : Option (List (String × Setting))) : Except Failure Catalog :=
  match layer.bind draftOf? with
  | some draft => ofDraft draft
  | none => .error .unreadable

/-- The catalog of a TOML text. -/
def ofToml (s : String) : Except Failure Catalog := ofLayer (Toml.ofChars? s.toList)

/-- The catalog of a file. -/
def load (ws : Workspace) (path : String) : Except Failure Catalog :=
  match ws.look path with
  | .nothing _ => .error (.invalidCatalog (.noFile path))
  | _ => ofLayer ((Setting.findFile? ws path).bind Setting.readFile?)

end Catalog

end ModelProbe
