import ModelProbe.Catalog
/-!
# Catalog drafts

A draft is a catalog as it was read, before it is checked: protocols are still names, and entries
may lack fields. The check goes through the names in increasing order and stops at the first fault.

* `Catalog.ofDraft`: the catalog of a draft, or its first fault.
-/

namespace ModelProbe

/-- An entry in which every field may be missing. -/
structure EntryDraft where
  endpoint : Option String := none
  header : Option String := none
  body : Option String := none
  fields : Option (SortedMap String String) := none
  args : Option String := none
  deriving DecidableEq, Inhabited

/-- A runtime whose protocols are names. -/
structure RuntimeDraft where
  containers : List String := []
  defaultQuery : Option DefaultQuery := none
  inferenceTypes : SortedMap String (SortedMap String EntryDraft) := .empty
  deriving DecidableEq, Inhabited

/-- The runtimes of a draft by name. -/
abbrev CatalogDraft := SortedMap String RuntimeDraft

namespace EntryDraft

/-- The value of a field that an entry at this location must have. -/
def require {α : Type} (location field : String) : Option α → Except CatalogFault α
  | some a => .ok a
  | none => .error (.missingField location field)

/-- The entry of a draft that has all fields; blank options are none. -/
def complete (location : String) (d : EntryDraft) : Except CatalogFault Entry := do
  return {
    endpoint := ← require location "endpoint" d.endpoint
    header := ← require location "header" d.header
    body := ← require location "body" d.body
    fields := ← require location "response_fields_map" d.fields
    args := d.args.filter fun a => !Text.isBlankText a.toList }

end EntryDraft

/-- Adds entries to a table under the protocols that their keys name. -/
def ProtocolTable.addDrafts (location : String) (table : ProtocolTable) :
    List (String × EntryDraft) → Except CatalogFault ProtocolTable
  | [] => .ok table
  | (name, draft) :: rest =>
    let here := location ++ "/" ++ name
    match Protocol.ofName? name with
    | none => .error (.unknownProtocol here name)
    | some protocol =>
      if table.contains protocol then .error (.repeatedProtocol here protocol)
      else
        match draft.complete here with
        | .error fault => .error fault
        | .ok entry => addDrafts location (table.insert protocol entry) rest

/-- The table of an inference type, which must have a protocol. -/
def ProtocolTable.ofDrafts (runtime inferenceType : String)
    (drafts : SortedMap String EntryDraft) : Except CatalogFault ProtocolTable :=
  if drafts.isEmpty then .error (.noProtocols runtime inferenceType)
  else addDrafts (runtime ++ "/" ++ inferenceType) .empty drafts.toList

/-- The runtime of a draft. -/
def ServingRuntime.ofDraft (name : String) (d : RuntimeDraft) :
    Except CatalogFault ServingRuntime :=
  match d.inferenceTypes.traverse (ProtocolTable.ofDrafts name) with
  | .error fault => .error fault
  | .ok types => .ok ⟨d.containers, d.defaultQuery, types⟩

/-- The catalog of a draft. -/
def Catalog.ofDraft (d : CatalogDraft) : Except Failure Catalog :=
  match d.traverse ServingRuntime.ofDraft with
  | .error fault => .error (.invalidCatalog fault)
  | .ok runtimes => .ok ⟨runtimes⟩

end ModelProbe
