import ModelProbe.Proofs.Setting.Defaults
import ModelProbe.Settings
/-!
# The leaves of the settings

The settings are read leaf by leaf: each is the value at its key in its section, or its default.

* `ofSetting?_eq_some_iff`: the settings that a table writes, by their leaves.
* `Leaf.from?_overDefaults`: a file over the defaults gives each leaf what the file gives it.
* `ofLayers_nil_eq_ok_iff`: the settings of a file alone.
-/

namespace ModelProbe.Settings

open Setting (fieldOr?)

/-- The values that the settings are made of. -/
inductive Leaf
  | kind
  | timeout
  | curl
  | grpcurl
  | defaultPort
  | catalogPath
  deriving DecidableEq, Repr

namespace Leaf

/-! ## Where a leaf stands -/

/-- The name of the section that a leaf is in. -/
def area : Leaf → String
  | kind | timeout | curl | grpcurl => "transport"
  | defaultPort => "grpc"
  | catalogPath => "catalog"

/-- The name of a leaf in its section. -/
def key : Leaf → String
  | kind => "kind"
  | timeout => "timeout_secs"
  | curl => "curl_bin"
  | grpcurl => "grpcurl_bin"
  | defaultPort => "default_port"
  | catalogPath => "path"

/-- The position of a leaf when its section is written as a list. -/
def place : Leaf → Nat
  | kind => 0
  | timeout => 1
  | curl => 2
  | grpcurl => 3
  | defaultPort => 0
  | catalogPath => 0

/-- A leaf is known by its section and its key. -/
theorem eq_of_area_key {l l' : Leaf} (harea : l'.area = l.area) (hkey : l'.key = l.key) :
    l' = l := by
  cases l <;> cases l' <;> simp_all [area, key]

/-! ## The value of a leaf -/

/-- The type of a leaf's values. -/
abbrev Value : Leaf → Type
  | kind => TransportKind
  | timeout => Nat
  | curl | grpcurl => String
  | defaultPort => UInt16
  | catalogPath => Option String

/-- The value of a leaf in the settings. -/
def get : (l : Leaf) → Settings → l.Value
  | kind, s => s.kind
  | timeout, s => s.timeoutSeconds
  | curl, s => s.programs.curl
  | grpcurl, s => s.programs.grpcurl
  | defaultPort, s => s.defaultPort
  | catalogPath, s => s.catalogPath

/-- The value of a leaf when nothing gives it another. -/
def default (l : Leaf) : l.Value := l.get {}

/-- Reads a setting as a value of a leaf. -/
def read? : (l : Leaf) → Setting → Option l.Value
  | kind => kindOf?
  | timeout => Setting.asNatural?
  | curl | grpcurl => Setting.asText?
  | defaultPort => Setting.asPort?
  | catalogPath => Setting.asOptional? Setting.asText?

/-! ## Reading a leaf -/

/-- What a section has for a leaf: in a table by the leaf's name, in a list by its position. Other
values are no sections. -/
def field? (l : Leaf) : Setting → Option (Option Setting)
  | .table ms => some (SortedMap.lookup l.key ms)
  | .list vs => some vs[l.place]?
  | _ => none

/-- The value of a leaf with its section over settings; there is none when what the section has
cannot be read. -/
def under? (l : Leaf) (s : Settings) : Option Setting → Option l.Value
  | none => some (l.get s)
  | some v => (l.field? v).bind (fieldOr? (l.get s) l.read?)

/-- The value that sections give a leaf: what its section says, or else the default. -/
def from? (l : Leaf) (sections : List (String × Setting)) : Option l.Value :=
  l.under? {} (SortedMap.lookup l.area sections)

end Leaf

/-! ## Reading the settings leaf by leaf -/

section Sections

variable (s : Settings) (given : Option Setting)

/-- The section of the transport is read leaf by leaf. -/
theorem fieldOr?_addTransport? :
    fieldOr? s s.addTransport? given =
      (Leaf.kind.under? s given).bind fun kind =>
      (Leaf.timeout.under? s given).bind fun timeout =>
      (Leaf.curl.under? s given).bind fun curl =>
      (Leaf.grpcurl.under? s given).bind fun grpcurl =>
      some { s with
        kind := kind
        timeoutSeconds := timeout
        programs := { curl := curl, grpcurl := grpcurl } } := by
  cases given with
  | none => rfl
  | some v => cases v <;> rfl

/-- The section of gRPC is read leaf by leaf. -/
theorem fieldOr?_addGrpc? :
    fieldOr? s s.addGrpc? given =
      (Leaf.defaultPort.under? s given).bind fun port => some { s with defaultPort := port } := by
  cases given with
  | none => rfl
  | some v => cases v <;> rfl

/-- The section of the catalog is read leaf by leaf. -/
theorem fieldOr?_addCatalog? :
    fieldOr? s s.addCatalog? given =
      (Leaf.catalogPath.under? s given).bind fun path => some { s with catalogPath := path } := by
  cases given with
  | none => rfl
  | some v => cases v <;> rfl

end Sections

/-- A table is read leaf by leaf. -/
theorem ofSetting?_table (ms : List (String × Setting)) :
    ofSetting? (.table ms) =
      (Leaf.kind.from? ms).bind fun kind =>
      (Leaf.timeout.from? ms).bind fun timeout =>
      (Leaf.curl.from? ms).bind fun curl =>
      (Leaf.grpcurl.from? ms).bind fun grpcurl =>
      (Leaf.defaultPort.from? ms).bind fun port =>
      (Leaf.catalogPath.from? ms).bind fun path =>
      some {
        kind := kind
        timeoutSeconds := timeout
        programs := { curl := curl, grpcurl := grpcurl }
        defaultPort := port
        catalogPath := path } := by
  let s : Settings := {}
  show ((fieldOr? s s.addTransport? (SortedMap.lookup "transport" ms)).bind fun s =>
      (fieldOr? s s.addGrpc? (SortedMap.lookup "grpc" ms)).bind fun s =>
      fieldOr? s s.addCatalog? (SortedMap.lookup "catalog" ms)) = _
  simp only [fieldOr?_addTransport?, fieldOr?_addGrpc?, fieldOr?_addCatalog?, Option.bind_assoc,
    Option.bind_some]
  rfl

/-- **The settings that a table writes**: every leaf has the value that the table gives it. -/
theorem ofSetting?_eq_some_iff {ms : List (String × Setting)} {s : Settings} :
    ofSetting? (.table ms) = some s ↔ ∀ l : Leaf, l.from? ms = some (l.get s) := by
  rw [ofSetting?_table]
  constructor
  · intro h
    simp only [Option.bind_eq_some_iff] at h
    obtain ⟨kind, hkind, timeout, htimeout, curl, hcurl, grpcurl, hgrpcurl, port, hport, path,
      hpath, hs⟩ := h
    obtain rfl := Option.some.inj hs
    intro l
    cases l with
    | kind => exact hkind
    | timeout => exact htimeout
    | curl => exact hcurl
    | grpcurl => exact hgrpcurl
    | defaultPort => exact hport
    | catalogPath => exact hpath
  · intro h
    rw [h .kind, h .timeout, h .curl, h .grpcurl, h .defaultPort, h .catalogPath]
    rfl

/-- Sections that give every leaf a value are read. -/
theorem exists_of_from? {ms : List (String × Setting)}
    (h : ∀ l : Leaf, ∃ x, l.from? ms = some x) : ∃ s, ofSetting? (.table ms) = some s := by
  obtain ⟨kind, hkind⟩ := h .kind
  obtain ⟨timeout, htimeout⟩ := h .timeout
  obtain ⟨curl, hcurl⟩ := h .curl
  obtain ⟨grpcurl, hgrpcurl⟩ := h .grpcurl
  obtain ⟨port, hport⟩ := h .defaultPort
  obtain ⟨path, hpath⟩ := h .catalogPath
  rw [ofSetting?_table, hkind, htimeout, hcurl, hgrpcurl, hport, hpath]
  exact ⟨_, rfl⟩

/-! ## A file over the defaults -/

/-- The default values of a section. -/
def defaultsOf (area : String) : List (String × Setting) :=
  (Setting.memberOf area defaultLayer).members

/-- The default values are scalars. -/
theorem scalars_defaultsOf (l : Leaf) : Setting.Scalars (defaultsOf l.area) := by
  have hall : (defaultsOf l.area).all (fun e => e.2.isScalar) = true := by
    cases l <;> decide +kernel
  intro key v h
  exact List.all_eq_true.1 hall (key, v) (SortedMap.mem_of_lookup h)

/-- A default value is read as the default. -/
theorem read?_defaultsOf (l : Leaf) :
    fieldOr? l.default l.read? (SortedMap.lookup l.key (defaultsOf l.area)) = some l.default := by
  cases l <;> decide +kernel

/-- The defaults are the value of their layer. -/
theorem ofLayer_defaultLayer : Setting.ofLayer defaultLayer = .table defaultLayer := by
  show Setting.addLayer (.table []) defaultLayer = .table ([] ++ defaultLayer)
  refine Setting.addLayer_plain (by decide +kernel) fun e he => ?_
  rcases List.mem_cons.1 he with rfl | he
  · exact ⟨by decide +kernel, rfl⟩
  rcases List.mem_cons.1 he with rfl | he
  · exact ⟨by decide +kernel, rfl⟩
  obtain rfl := List.mem_singleton.1 he
  exact ⟨by decide +kernel, rfl⟩

/-- Every leaf's section has its defaults. -/
theorem lookup_defaultLayer (l : Leaf) :
    SortedMap.lookup l.area defaultLayer = some (.table (defaultsOf l.area)) := by
  cases l <;> rfl

/-- What a section over its defaults gives a leaf is what it gives it alone. -/
theorem Leaf.under?_of_fills {l : Leaf} {own full : Option Setting}
    (h : Setting.Fills (defaultsOf l.area) own full) : l.under? {} full = l.under? {} own := by
  cases h with
  | absent => exact read?_defaultsOf l
  | @supplied ms full h =>
    show fieldOr? l.default l.read? (SortedMap.lookup l.key full) =
      fieldOr? l.default l.read? (SortedMap.lookup l.key ms)
    rw [h l.key]
    cases SortedMap.lookup l.key ms with
    | none => exact read?_defaultsOf l
    | some v => rfl
  | replaced v => rfl

/-- The value that a file gives a leaf: its own, or else the default. -/
def Leaf.ofFile? (l : Leaf) (file : List (String × Setting)) : Option l.Value :=
  l.from? (Setting.ofLayer file).members

/-- The value of a file over the defaults. -/
def overDefaults (file : List (String × Setting)) : Setting :=
  (Setting.ofLayer defaultLayer).addLayer file

/-- A file's section alone and over the defaults. -/
theorem fills_overDefaults (l : Leaf) (file : List (String × Setting)) :
    Setting.Fills (defaultsOf l.area) (SortedMap.lookup l.area (Setting.ofLayer file).members)
      (SortedMap.lookup l.area (overDefaults file).members) := by
  refine Setting.fills_addLayer file (scalars_defaultsOf l) l.area ?_
  rw [ofLayer_defaultLayer]
  show Setting.Fills _ none (SortedMap.lookup l.area defaultLayer)
  rw [lookup_defaultLayer]
  exact .absent

/-- **A file over the defaults gives each leaf what the file gives it.** -/
theorem Leaf.from?_overDefaults (l : Leaf) (file : List (String × Setting)) :
    l.from? (overDefaults file).members = l.ofFile? file :=
  under?_of_fills (fills_overDefaults l file)

/-- The value of a file over the defaults is a table. -/
theorem table_members_overDefaults (file : List (String × Setting)) :
    .table (overDefaults file).members = overDefaults file := by
  have htable : .table (Setting.ofLayer defaultLayer).members = Setting.ofLayer defaultLayer :=
    Setting.table_members_addLayer defaultLayer rfl
  exact Setting.table_members_addLayer file htable

/-- Whether settings are read from layers is whether they are read from their value. -/
theorem ofLayers_eq_ok_iff {file environment : List (String × Setting)} {s : Settings} :
    ofLayers file environment = .ok s ↔
      ofSetting? ((overDefaults file).addLayer environment) = some s := by
  unfold ofLayers overDefaults
  dsimp only
  split
  · next t ht =>
    rw [ht]
    constructor
    · exact fun h => congrArg some (Except.ok.inj h)
    · exact fun h => congrArg Except.ok (Option.some.inj h)
  · next hnone =>
    rw [hnone]
    constructor <;> rintro ⟨⟩

/-- **The settings of a file alone**: every leaf has the file's value or else its default. -/
theorem ofLayers_nil_eq_ok_iff {file : List (String × Setting)} {s : Settings} :
    ofLayers file [] = .ok s ↔ ∀ l : Leaf, l.ofFile? file = some (l.get s) := by
  rw [ofLayers_eq_ok_iff]
  show ofSetting? (overDefaults file) = some s ↔ _
  rw [← table_members_overDefaults, ofSetting?_eq_some_iff]
  exact forall_congr' fun l => by rw [l.from?_overDefaults]

end ModelProbe.Settings
