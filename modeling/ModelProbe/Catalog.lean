import ModelProbe.Catalog.Entry
import ModelProbe.Failure
/-!
# Catalogs

A catalog holds, for each serving runtime, an entry per inference type and protocol, the runtime's
containers and its default query. Catalogs are layered: what the upper one says replaces what the
lower one says, entry by entry.
-/

namespace ModelProbe

/-- The entries of one inference type, HTTP before gRPC. -/
abbrev ProtocolTable := SortedMap Protocol Entry

/-- What is known about one serving runtime. -/
structure ServingRuntime where
  containers : List String := []
  defaultQuery : Option DefaultQuery := none
  inferenceTypes : SortedMap String ProtocolTable := .empty
  deriving DecidableEq, Inhabited

/-- The serving runtimes by name. -/
structure Catalog where
  runtimes : SortedMap String ServingRuntime := .empty
  deriving DecidableEq, Inhabited

/-- What two layers say about one runtime together: the upper one's containers when it lists any,
its default query when it has one, and its entries over those of the lower one. -/
def ServingRuntime.overlay (lower upper : ServingRuntime) : ServingRuntime where
  containers := if upper.containers.isEmpty then lower.containers else upper.containers
  defaultQuery := upper.defaultQuery.or lower.defaultQuery
  inferenceTypes := lower.inferenceTypes.mergeWith SortedMap.union upper.inferenceTypes

namespace Catalog

/-- The catalog without runtimes. -/
def empty : Catalog := {}

/-- The catalog with another one layered on top of it. -/
def merge (lower upper : Catalog) : Catalog :=
  ⟨lower.runtimes.mergeWith ServingRuntime.overlay upper.runtimes⟩

/-! ## Lookup -/

/-- What is known about a runtime. -/
def runtime (c : Catalog) (name : String) : Except Failure ServingRuntime :=
  match c.runtimes.get? name with
  | some r => .ok r
  | none => .error (.unsupportedRuntime name c.runtimes.keys)

/-- The entries of an inference type. -/
def protocols (c : Catalog) (runtime inferenceType : String) : Except Failure ProtocolTable :=
  match c.runtime runtime with
  | .error e => .error e
  | .ok r =>
    match r.inferenceTypes.get? inferenceType with
    | some table => .ok table
    | none => .error (.unsupportedInferenceType runtime inferenceType r.inferenceTypes.keys)

/-- The entry of a runtime, an inference type and a protocol. -/
def resolve (c : Catalog) (runtime inferenceType : String) (protocol : Protocol) :
    Except Failure Entry :=
  match c.protocols runtime inferenceType with
  | .error e => .error e
  | .ok table =>
    match table.get? protocol with
    | some entry => .ok entry
    | none => .error (.unsupportedProtocol runtime inferenceType protocol table.keys)

/-! ## Listing -/

/-- The names of the runtimes, increasing. -/
def runtimeNames (c : Catalog) : List String := c.runtimes.keys

/-- The inference types of a runtime, increasing. -/
def inferenceTypes (c : Catalog) (runtime : String) : Except Failure (List String) :=
  match c.runtime runtime with
  | .ok r => .ok r.inferenceTypes.keys
  | .error e => .error e

/-- An entry together with where it stands. -/
structure Listed where
  runtime : String
  inferenceType : String
  protocol : Protocol
  entry : Entry
  deriving DecidableEq, Inhabited

/-- All entries, by runtime, inference type and protocol. -/
def entries (c : Catalog) : List Listed :=
  c.runtimes.toList.flatMap fun (runtime, r) =>
    r.inferenceTypes.toList.flatMap fun (inferenceType, table) =>
      table.toList.map fun (protocol, entry) => ⟨runtime, inferenceType, protocol, entry⟩

end Catalog

end ModelProbe
