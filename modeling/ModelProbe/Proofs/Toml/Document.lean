import ModelProbe.Proofs.Setting.Layer
import ModelProbe.Toml.Document
/-!
# Documents of nested tables

A document writes a map of tables section by section: a header for each table, what is assigned in
it, and then the sections of the tables inside it, whose paths begin with its name. Putting the
sections together gives back the map, level by level.

* `inline?_map`: the pairs of a map make the table of the map.
* `addSections?_below`: sections below a table change that table alone.
* `addSections?_tables`: the sections of a map of tables make the members of the map.
-/

namespace ModelProbe.Toml

/-! ## Written values and sections -/

/-- A value as it is written. -/
inductive Written
  | text (s : String)
  /-- A table of texts. -/
  | fields (m : SortedMap String String)

/-- The setting that a value writes. -/
def Written.toSetting : Written → Setting
  | text s => .text s
  | fields m => Setting.ofMap .text m

/-- A table with a header and what is assigned in it. -/
structure Section where
  path : List String
  name : String
  assignments : SortedMap String Written

namespace Section

/-- The header of a section. -/
def header (s : Section) : Header := ⟨s.path, s.name, false⟩

/-- The pairs of a section. -/
def pairs (s : Section) : List Pair :=
  s.assignments.toList.map fun e => ⟨[], e.1, e.2.toSetting⟩

/-- The section inside a table with this name. -/
def below (name : String) (s : Section) : Section := { s with path := name :: s.path }

end Section

variable {α : Type}

/-- The sections of a map of tables, each with what is assigned in it and the sections inside. -/
def tables (own : α → SortedMap String Written) (inside : α → List Section)
    (m : SortedMap String α) : List Section :=
  m.toList.flatMap fun e => ⟨[], e.1, own e.2⟩ :: (inside e.2).map (.below e.1)

/-! ## Members of maps -/

namespace Members

/-- The members that have the values of a map as nodes. -/
def ofMap (f : α → Node) (m : SortedMap String α) : Members := (m.map f).toList

/-- The values of the members of a map are those of the map. -/
theorem toSettings_ofMap (f : α → Node) (m : SortedMap String α) :
    membersToSettings (ofMap f m) = (m.map fun a => (f a).toSetting).toList := by
  have hlist : ∀ l : List (String × α), membersToSettings (l.map fun e => (e.1, f e.2)) =
      l.map fun e => (e.1, (f e.2).toSetting) := by
    intro l
    induction l with
    | nil => rfl
    | cons e l ih => rw [List.map_cons, membersToSettings, ih, List.map_cons]
  exact hlist m.toList

/-- A table with the members of a map is the table of the map. -/
theorem toSetting_table_ofMap (origin : Origin) (f : α → Node) (m : SortedMap String α) :
    (Node.table origin (ofMap f m)).toSetting = Setting.ofMap (fun a => (f a).toSetting) m := by
  rw [Node.toSetting, toSettings_ofMap, Setting.ofMap]

/-- **Making the members of a map.** When each step sets a node under a name that is new, going
through a map by increasing name makes the members of the map. -/
theorem foldlM_new {step : Members → String × α → Option Members} {node : α → Node}
    {m : SortedMap String α}
    (hstep : ∀ e ∈ m.toList, ∀ ms : Members, SortedMap.lookup e.1 ms = none →
      step ms e = some (ms.set e.1 (node e.2))) :
    m.toList.foldlM step [] = some (ofMap node m) := by
  -- What is made stands behind members with lesser names.
  have hlist : ∀ (entries : List (String × α)) (ms : Members), (∀ e ∈ entries, e ∈ m.toList) →
      (∀ a ∈ ms, ∀ e ∈ entries, compare a.1 e.1 = .lt) →
      entries.Pairwise (fun a b => compare a.1 b.1 = .lt) →
      entries.foldlM step ms = some (ms ++ entries.map fun e => (e.1, node e.2)) := by
    intro entries
    induction entries with
    | nil => intro ms _ _ _; rw [List.map_nil, List.append_nil]; rfl
    | cons e entries ih =>
      intro ms hmem hms hsorted
      rw [List.pairwise_cons] at hsorted
      have hlower : ∀ a ∈ ms, compare a.1 e.1 = .lt := fun a ha => hms a ha e (by simp)
      have hset : ms.set e.1 (node e.2) = ms ++ [(e.1, node e.2)] :=
        SortedMap.insertEntry_of_lt _ hlower _
      have hstep' := hstep e (hmem e (by simp)) ms (SortedMap.lookup_eq_none_of_lt hlower)
      have hrest := ih (ms ++ [(e.1, node e.2)])
        (fun b hb => hmem b (List.mem_cons_of_mem _ hb)) ?_ hsorted.2
      · rw [List.append_assoc, List.singleton_append] at hrest
        rw [List.foldlM_cons, hstep', hset, List.map_cons]
        exact hrest
      · intro a ha b hb
        rcases List.mem_append.1 ha with ha | ha
        · exact hms a ha b (List.mem_cons_of_mem _ hb)
        · obtain rfl := List.mem_singleton.1 ha
          exact hsorted.1 b hb
  exact hlist m.toList [] (fun _ he => he) (by simp) m.sorted

end Members

/-! ## Pairs -/

/-- The nodes of what is assigned in a table. -/
def assignedNodes (own : SortedMap String Written) : Members :=
  Members.ofMap (fun w => .done w.toSetting) own

/-- A pair with a new name is added. -/
theorem addPair?_new {ms : Members} {name : String} (hnew : SortedMap.lookup name ms = none)
    (v : Setting) : addPair? ms ⟨[], name, v⟩ = some (ms.set name (.done v)) := by
  simp only [addPair?, alter, hnew]
  rfl

/-- Pairs are added one after another. -/
theorem addPairs?_eq_foldlM (pairs : List Pair) :
    ∀ ms : Members, addPairs? pairs ms = pairs.foldlM addPair? ms := by
  induction pairs with
  | nil => intro ms; rfl
  | cons p pairs ih =>
    intro ms
    rw [addPairs?, List.foldlM_cons]
    exact congrArg _ (funext ih)

/-- The pairs of a map make the members of the map. -/
theorem addPairs?_map (f : α → Setting) (m : SortedMap String α) :
    addPairs? (m.toList.map fun e => ⟨[], e.1, f e.2⟩) [] =
      some (Members.ofMap (fun a => .done (f a)) m) := by
  rw [addPairs?_eq_foldlM, List.foldlM_map]
  exact Members.foldlM_new fun e _ ms hnew => addPair?_new hnew (f e.2)

/-- **The pairs of a map make the table of the map.** -/
theorem inline?_map (f : α → Setting) (m : SortedMap String α) :
    inline? (m.toList.map fun e => ⟨[], e.1, f e.2⟩) = some (m.map f).toList := by
  rw [inline?, addPairs?_map, Option.map_some, Members.toSettings_ofMap]
  rfl

/-! ## Sections -/

/-- Adds the sections of a document. -/
def addAll? (ss : List Section) (ms : Members) : Option Members :=
  addSections? (ss.map fun s => (s.header, s.pairs)) ms

/-- The first section is added before the others. -/
theorem addAll?_cons (s : Section) (ss : List Section) (ms : Members) :
    addAll? (s :: ss) ms = (addSection? ms s.header s.pairs).bind (addAll? ss) := rfl

/-- Sections are added one after another. -/
theorem addAll?_append (ss rest : List Section) :
    ∀ ms : Members, addAll? (ss ++ rest) ms = (addAll? ss ms).bind (addAll? rest) := by
  induction ss with
  | nil => intro ms; rfl
  | cons s ss ih =>
    intro ms
    rw [List.cons_append, addAll?_cons, addAll?_cons, Option.bind_assoc]
    exact congrArg _ (funext ih)

/-- A section with a new name is added with what is assigned in it. -/
theorem addSection?_new {ms : Members} {name : String} (hnew : SortedMap.lookup name ms = none)
    (own : SortedMap String Written) :
    addSection? ms (Section.header ⟨[], name, own⟩) (Section.pairs ⟨[], name, own⟩) =
      some (ms.set name (.table .header (assignedNodes own))) := by
  have hpairs := addPairs?_map Written.toSetting own
  simp only [addSection?, Section.header, Section.pairs, alter, hnew, hpairs]
  rfl

/-- A section below a table changes that table alone. -/
theorem addSection?_below {ms inner : Members} {name : String}
    (htable : SortedMap.lookup name ms = some (.table .header inner)) (s : Section) :
    addSection? ms (s.below name).header (s.below name).pairs =
      (addSection? inner s.header s.pairs).map fun inner => ms.set name (.table .header inner) := by
  simp only [addSection?, Section.header, Section.below, alter, htable]
  rfl

/-- **Sections below a table change that table alone.** -/
theorem addAll?_below (name : String) (ms : Members) (ss : List Section) :
    ∀ inner : Members, addAll? (ss.map (.below name)) (ms.set name (.table .header inner)) =
      (addAll? ss inner).map fun inner => ms.set name (.table .header inner) := by
  induction ss with
  | nil => intro inner; rfl
  | cons s ss ih =>
    intro inner
    have htable : SortedMap.lookup name (ms.set name (.table .header inner)) =
        some (.table .header inner) := SortedMap.lookup_insertEntry_self _ _ _
    rw [List.map_cons, addAll?_cons, addAll?_cons, addSection?_below htable]
    cases addSection? inner s.header s.pairs with
    | none => rfl
    | some inner' =>
      have hset : (ms.set name (.table .header inner)).set name (.table .header inner') =
          ms.set name (.table .header inner') := SortedMap.insertEntry_insertEntry _ _ _ _
      rw [Option.map_some, Option.bind_some, Option.bind_some, hset, ih inner']

/-- The sections of tables are added table by table. -/
theorem addAll?_flatMap {β : Type} (f : β → List Section) (entries : List β) :
    ∀ ms : Members, addAll? (entries.flatMap f) ms =
      entries.foldlM (fun ms e => addAll? (f e) ms) ms := by
  induction entries with
  | nil => intro ms; rfl
  | cons e entries ih =>
    intro ms
    rw [List.flatMap_cons, addAll?_append, List.foldlM_cons]
    exact congrArg _ (funext ih)

/-- **The sections of a map of tables make the members of the map**, when the sections inside each
table make its members. -/
theorem addAll?_tables {own : α → SortedMap String Written} {inside : α → List Section}
    {node : α → Members} {m : SortedMap String α}
    (h : ∀ e ∈ m.toList, addAll? (inside e.2) (assignedNodes (own e.2)) = some (node e.2)) :
    addAll? (tables own inside m) [] =
      some (Members.ofMap (fun a => .table .header (node a)) m) := by
  rw [tables, addAll?_flatMap]
  refine Members.foldlM_new fun e he ms hnew => ?_
  rw [addAll?_cons, addSection?_new hnew, Option.bind_some, addAll?_below, h e he, Option.map_some]

end ModelProbe.Toml
