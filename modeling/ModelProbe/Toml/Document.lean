import ModelProbe.Setting
/-!
# The tables of a TOML document

A document is a row of sections. Each has a header, but for the first, and pairs of a key path and
a value. A table remembers how it came about, because that decides what may still be added to it.

* `Toml.ofSections?`: the members of the document's root.
-/

namespace ModelProbe.Toml

/-- How a table came about. -/
inductive Origin
  /-- By a header of its own, or as the root. -/
  | header
  /-- As a part of another header's path. -/
  | implied
  /-- As a part of a dotted key. -/
  | dotted
  deriving DecidableEq, Repr

/-- A value while the document is put together. -/
inductive Node
  /-- A finished value, to which nothing is added. -/
  | done (v : Setting)
  | table (origin : Origin) (members : List (String × Node))
  /-- The tables of headers in double brackets, the last one first. -/
  | tables (last : List (String × Node)) (earlier : List (List (String × Node)))

/-- The members of a table that is put together. -/
abbrev Members := List (String × Node)

/-- The members with one replaced or added. -/
def Members.set (name : String) (node : Node) (ms : Members) : Members :=
  SortedMap.insertEntry (fun _ new => new) name node ms

/-- Changes the table at the end of a path of names. A table that is missing is made, and the last
one stands for a row of tables. Dotted keys do not reach into a table with a header. -/
def alter (byKey : Bool) (change : Origin → Members → Option Members) :
    List String → Origin → Members → Option Members
  | [], origin, ms => change origin ms
  | name :: path, _, ms =>
    match SortedMap.lookup name ms with
    | none =>
      let origin := if byKey then .dotted else .implied
      (alter byKey change path origin []).map fun inner => ms.set name (.table origin inner)
    | some (.table origin inner) =>
      if byKey && origin == .header then none
      else (alter byKey change path origin inner).map fun inner => ms.set name (.table origin inner)
    | some (.tables last earlier) =>
      (alter byKey change path .header last).map fun last => ms.set name (.tables last earlier)
    | some (.done _) => none

/-- A pair of a key path, split into the names before the last and the last, and a value. -/
structure Pair where
  path : List String
  name : String
  value : Setting

/-- Adds a pair to a table with a header, or to an inline one. The name must be new, and a table
that a dotted key adds to must come from dotted keys alone. -/
def addPair? (ms : Members) (p : Pair) : Option Members :=
  alter true (fun origin inner =>
    if (origin == .dotted) == p.path.isEmpty then none
    else
      match SortedMap.lookup p.name inner with
      | some _ => none
      | none => some (inner.set p.name (.done p.value))) p.path .header ms

/-- Adds the pairs of a section. -/
def addPairs? : List Pair → Members → Option Members
  | [], ms => some ms
  | p :: ps, ms => (addPair? ms p).bind (addPairs? ps)

/-- A header's path, and whether it stands in double brackets. -/
structure Header where
  path : List String
  name : String
  isRow : Bool

/-- Adds a section below its header. A table that other headers imply is taken up, and a row of
tables grows by one. -/
def addSection? (root : Members) (h : Header) (pairs : List Pair) : Option Members :=
  alter false (fun _ ms =>
    if h.isRow then
      match SortedMap.lookup h.name ms with
      | none => (addPairs? pairs []).map fun inner => ms.set h.name (.tables inner [])
      | some (.tables last earlier) =>
        (addPairs? pairs []).map fun inner => ms.set h.name (.tables inner (last :: earlier))
      | some _ => none
    else
      match SortedMap.lookup h.name ms with
      | none => (addPairs? pairs []).map fun inner => ms.set h.name (.table .header inner)
      | some (.table .implied inner) =>
        (addPairs? pairs inner).map fun inner => ms.set h.name (.table .header inner)
      | some _ => none) h.path .header root

mutual

/-- The value that a node stands for. -/
def Node.toSetting : Node → Setting
  | .done v => v
  | .table _ ms => .table (membersToSettings ms)
  | .tables last earlier =>
    .list (.table (membersToSettings last) :: rowToSettings earlier).reverse

/-- The values of members. -/
def membersToSettings : List (String × Node) → List (String × Setting)
  | [] => []
  | (name, node) :: rest => (name, node.toSetting) :: membersToSettings rest

/-- The values of a row of tables. -/
def rowToSettings : List (List (String × Node)) → List Setting
  | [] => []
  | ms :: rest => .table (membersToSettings ms) :: rowToSettings rest

end

/-- The members of an inline table. -/
def inline? (pairs : List Pair) : Option (List (String × Setting)) :=
  (addPairs? pairs []).map membersToSettings

/-- Adds the sections that have headers. -/
def addSections? : List (Header × List Pair) → Members → Option Members
  | [], root => some root
  | (h, pairs) :: rest, root => (addSection? root h pairs).bind (addSections? rest)

/-- The root of a document: the pairs before the first header, and the sections with headers. -/
def ofSections? (first : List Pair) (sections : List (Header × List Pair)) :
    Option (List (String × Setting)) :=
  ((addPairs? first []).bind (addSections? sections)).map membersToSettings

end ModelProbe.Toml
