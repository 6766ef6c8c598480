import ModelProbe.Catalog.Source
import ModelProbe.Proofs.Catalog.Draft
import ModelProbe.Proofs.Setting.Layer
import ModelProbe.Proofs.Toml.Text
/-!
# Catalogs that are written and read back

A table of entries by runtime, inference type and protocol is written as a TOML document: a header
for each runtime, each inference type and each protocol, and the fields of the entry below the
last. The document is read back as the catalog with these entries, whatever characters the names
and fields have, as long as the names of the runtimes stand for themselves as keys. A name that is
a path of more than one step is lost.

* `ofToml_of_plain`: a written table is read back as its catalog.
* `isPlainKey_of_ofLayer`: the runtimes that can be named in any source of a catalog.
* `ofToml_document_iff`: which written tables are kept.
-/

namespace ModelProbe

/-- Entries by runtime, inference type and protocol. -/
abbrev CatalogTable := SortedMap String (SortedMap String ProtocolTable)

/-! ## Writing -/

namespace Entry

/-- The fields of an entry as they are written. -/
def assignments (e : Entry) : SortedMap String Toml.Written :=
  .ofList ([("endpoint", .text e.endpoint), ("header", .text e.header), ("body", .text e.body),
    ("response_fields_map", .fields e.fields)] ++ e.args.toList.map fun a => ("args", .text a))

/-- The entry with no options in place of blank ones. -/
def withoutBlankArgs (e : Entry) : Entry :=
  { e with args := e.args.filter fun a => !Text.isBlankText a.toList }

end Entry

namespace ProtocolTable

/-- The entries of a type by the names of their protocols. -/
def byName (ps : ProtocolTable) : SortedMap String Entry :=
  .ofList (ps.toList.map fun e => (e.1.name, e.2))

/-- The sections of a type: one for each protocol. -/
def sections (ps : ProtocolTable) : List Toml.Section :=
  Toml.tables Entry.assignments (fun _ => []) ps.byName

end ProtocolTable

namespace CatalogTable

/-- The sections of a runtime: those of its types, each behind a header of its own. -/
def runtimeSections (types : SortedMap String ProtocolTable) : List Toml.Section :=
  Toml.tables (fun _ => .empty) ProtocolTable.sections types

/-- The TOML document that writes a table. -/
def document (t : CatalogTable) : String :=
  String.ofList (Toml.document (Toml.tables (fun _ => .empty) runtimeSections t))

end CatalogTable

/-! ## The written layer -/

/-- The setting that an entry is written as. -/
def Entry.toSetting (e : Entry) : Setting := Setting.ofMap Toml.Written.toSetting e.assignments

namespace ProtocolTable

/-- The setting that the entries of a type are written as. -/
def toSetting (ps : ProtocolTable) : Setting := Setting.ofMap Entry.toSetting ps.byName

/-- The members that the sections of a type make. -/
def nodes (ps : ProtocolTable) : Toml.Members :=
  Toml.Members.ofMap (fun e => .table .header (Toml.assignedNodes e.assignments)) ps.byName

end ProtocolTable

namespace CatalogTable

/-- The setting that a runtime is written as. -/
def runtimeSetting (types : SortedMap String ProtocolTable) : Setting :=
  Setting.ofMap ProtocolTable.toSetting types

/-- The members that the sections of a runtime make. -/
def runtimeNodes (types : SortedMap String ProtocolTable) : Toml.Members :=
  Toml.Members.ofMap (fun ps => .table .header ps.nodes) types

/-- **The document of a table** is read as the settings of its runtimes. -/
theorem ofChars?_document (t : CatalogTable) :
    Toml.ofChars? t.document.toList = some (t.map runtimeSetting).toList := by
  -- The sections are put together level by level, the innermost first.
  have hprotocols : ∀ ps : ProtocolTable, Toml.addAll? ps.sections [] = some ps.nodes :=
    fun ps => Toml.addAll?_tables fun _ _ => rfl
  have htypes : ∀ types, Toml.addAll? (runtimeSections types) [] = some (runtimeNodes types) :=
    fun types => Toml.addAll?_tables fun e _ => hprotocols e.2
  have hroot : Toml.addAll? (Toml.tables (fun _ => .empty) runtimeSections t) [] =
      some (Toml.Members.ofMap (fun types => .table .header (runtimeNodes types)) t) :=
    Toml.addAll?_tables fun e _ => htypes e.2
  rw [document, String.toList_ofList, Toml.ofChars?_document, hroot, Option.map_some,
    Toml.Members.toSettings_ofMap]
  simp only [Toml.Members.toSetting_table_ofMap, Toml.assignedNodes, runtimeNodes,
    ProtocolTable.nodes]
  rfl

end CatalogTable

/-! ## The draft that is read -/

/-- A member is read before the others. -/
theorem Setting.readMembers?_cons {α : Type} (f : Setting → Option α) (e : String × Setting)
    (ms : List (String × Setting)) : Setting.readMembers? f (e :: ms) =
      (f e.2).bind fun a => (Setting.readMembers? f ms).map ((e.1, a) :: ·) := by
  unfold Setting.readMembers?
  rw [List.mapM_cons]
  dsimp only
  cases f e.2 with
  | none => rfl
  | some a => cases ms.mapM fun e => (f e.2).map (e.1, ·) <;> rfl

/-- The values of a map's table are read as the values of a map. -/
theorem Setting.readMembers?_map {α β : Type} {f : Setting → Option β} {g : α → Setting}
    {h : α → β} {m : SortedMap String α} (hread : ∀ e ∈ m.toList, f (g e.2) = some (h e.2)) :
    Setting.readMembers? f (m.map g).toList = some (m.map h).toList := by
  have hlist : ∀ l : List (String × α), (∀ e ∈ l, f (g e.2) = some (h e.2)) →
      Setting.readMembers? f (l.map fun e => (e.1, g e.2)) =
        some (l.map fun e => (e.1, h e.2)) := by
    intro l
    induction l with
    | nil => intro _; rfl
    | cons e l ih =>
      intro hl
      rw [List.map_cons, Setting.readMembers?_cons, hl e (by simp), Option.bind_some,
        ih fun e he => hl e (List.mem_cons_of_mem _ he), Option.map_some, List.map_cons]
  exact hlist m.toList hread

/-- The draft of an entry that has all fields. -/
def Entry.draft (e : Entry) : EntryDraft :=
  ⟨some e.endpoint, some e.header, some e.body, some e.fields, e.args⟩

/-- The draft of a type's entries. -/
def ProtocolTable.drafts (ps : ProtocolTable) : SortedMap String EntryDraft :=
  ps.byName.map Entry.draft

namespace CatalogTable

/-- The draft of a runtime. -/
def runtimeDraft (types : SortedMap String ProtocolTable) : RuntimeDraft :=
  { inferenceTypes := types.map ProtocolTable.drafts }

/-- Fields that are written are read back. -/
theorem exactFields?_ofMap (m : SortedMap String String) :
    EntryDraft.exactFields? (Setting.ofMap .text m) = some m := by
  have hread : Setting.readMembers? EntryDraft.exactText? (m.map .text).toList = some m.toList := by
    have hvalues : (m.map id).toList = m.toList := List.map_id m.toList
    rw [← hvalues]
    exact Setting.readMembers?_map fun _ _ => rfl
  simp only [EntryDraft.exactFields?, Setting.ofMap, Setting.asTable?, Option.bind_eq_bind,
    Option.bind_some, hread, Option.pure_def, SortedMap.ofList_toList]

/-- The fields of an entry are found under their names. -/
theorem get?_assignments (e : Entry) :
    e.assignments.get? "endpoint" = some (.text e.endpoint) ∧
      e.assignments.get? "header" = some (.text e.header) ∧
      e.assignments.get? "body" = some (.text e.body) ∧
      e.assignments.get? "response_fields_map" = some (.fields e.fields) ∧
      e.assignments.get? "args" = e.args.map .text := by
  unfold Entry.assignments
  simp only [SortedMap.get?_ofList]
  cases e.args with
  | none => simp [List.lookup_cons]
  | some args => simp [List.lookup_cons]

/-- **A written entry is read back.** -/
theorem ofSetting?_entry (e : Entry) : EntryDraft.ofSetting? e.toSetting = some e.draft := by
  obtain ⟨hendpoint, hheader, hbody, hfields, hargs⟩ := get?_assignments e
  have hlookup : ∀ name, SortedMap.lookup name (e.assignments.map Toml.Written.toSetting).toList =
      (e.assignments.get? name).map Toml.Written.toSetting := fun name =>
    SortedMap.get?_map Toml.Written.toSetting e.assignments name
  have hread : EntryDraft.fieldsOf? (Toml.Written.fields e.fields).toSetting =
      some (some e.fields) := congrArg (Option.map some) (exactFields?_ofMap e.fields)
  simp only [EntryDraft.ofSetting?, Entry.toSetting, Setting.ofMap, Setting.fieldValues?,
    List.map_cons, List.map_nil, hlookup, hendpoint, hheader, hbody, hfields, hargs,
    Option.map_some, Setting.fieldOr?, hread, Option.bind_eq_bind, Option.bind_some, Entry.draft]
  cases e.args <;> rfl

/-- The entries of a type are read back. -/
theorem protocolsOf?_toSetting (ps : ProtocolTable) :
    RuntimeDraft.protocolsOf? ps.toSetting = some ps.drafts := by
  have hread : Setting.readMembers? EntryDraft.ofSetting? (ps.byName.map Entry.toSetting).toList =
      some ps.drafts.toList := Setting.readMembers?_map fun e _ => ofSetting?_entry e.2
  simp only [RuntimeDraft.protocolsOf?, ProtocolTable.toSetting, Setting.ofMap, Setting.asTable?,
    Option.bind_eq_bind, Option.bind_some, hread, Option.pure_def, SortedMap.ofList_toList]

/-- No inference type has a name that a runtime's other members have. -/
def TypesNamed (types : SortedMap String ProtocolTable) : Prop :=
  ∀ e ∈ types.toList, e.1 ≠ RuntimeDraft.containersKey ∧ e.1 ≠ RuntimeDraft.defaultQueryKey

instance (types : SortedMap String ProtocolTable) : Decidable (TypesNamed types) :=
  inferInstanceAs (Decidable (∀ e ∈ types.toList, _))

/-- **A written runtime is read back**, when its types are named apart from its other members. -/
theorem ofSetting?_runtime {types : SortedMap String ProtocolTable} (htypes : TypesNamed types) :
    RuntimeDraft.ofSetting? (runtimeSetting types) = some (runtimeDraft types) := by
  have hread : Setting.readMembers? RuntimeDraft.protocolsOf?
      (types.map ProtocolTable.toSetting).toList = some (types.map ProtocolTable.drafts).toList :=
    Setting.readMembers?_map fun e _ => protocolsOf?_toSetting e.2
  have hfilter : (types.map ProtocolTable.toSetting).toList.filter (fun e =>
      e.1 != RuntimeDraft.containersKey && e.1 != RuntimeDraft.defaultQueryKey) =
        (types.map ProtocolTable.toSetting).toList := by
    refine List.filter_eq_self.2 fun e he => ?_
    obtain ⟨a, ha, rfl⟩ := Setting.exists_of_mem_map he
    obtain ⟨hcontainers, hquery⟩ := htypes a ha
    simp [hcontainers, hquery]
  have hlookup : ∀ key, (∀ e ∈ types.toList, e.1 ≠ key) →
      SortedMap.lookup key (types.map ProtocolTable.toSetting).toList = none := by
    intro key hkey
    have hnone : types.get? key = none := by
      cases hget : types.get? key with
      | none => rfl
      | some ps => exact absurd rfl (hkey _ ((SortedMap.mem_toList_iff types key ps).2 hget))
    exact (SortedMap.get?_map ProtocolTable.toSetting types key).trans (by rw [hnone]; rfl)
  have hcontainers := hlookup _ fun e he => (htypes e he).1
  have hquery := hlookup _ fun e he => (htypes e he).2
  simp only [RuntimeDraft.ofSetting?, runtimeSetting, Setting.ofMap, Setting.asTable?,
    Option.bind_eq_bind, Option.bind_some, hfilter, hread, hcontainers, hquery, Setting.fieldOr?,
    Option.pure_def, SortedMap.ofList_toList, runtimeDraft]

/-- The draft of a table. -/
def draft (t : CatalogTable) : CatalogDraft := t.map runtimeDraft

/-- The table can be written: its types are named apart from the other members of a runtime, and
each of them has a protocol. -/
structure Writable (t : CatalogTable) : Prop where
  named : ∀ r ∈ t.toList, TypesNamed r.2
  some_protocol : ∀ r ∈ t.toList, ∀ i ∈ r.2.toList, i.2.isEmpty = false

instance (t : CatalogTable) : Decidable t.Writable :=
  decidable_of_iff ((∀ r ∈ t.toList, TypesNamed r.2) ∧
    ∀ r ∈ t.toList, ∀ i ∈ r.2.toList, i.2.isEmpty = false)
    ⟨fun h => ⟨h.1, h.2⟩, fun h => ⟨h.named, h.some_protocol⟩⟩

/-- The setting that a runtime is written as stays what it is over nothing. -/
theorem settled_runtimeSetting (types : SortedMap String ProtocolTable) :
    Setting.Settled (runtimeSetting types) := by
  have hvalue : ∀ w : Toml.Written, Setting.Settled w.toSetting := by
    intro w
    cases w with
    | text s => rfl
    | fields m => exact Setting.settled_ofMap fun _ _ => rfl
  exact Setting.settled_ofMap fun i _ => Setting.settled_ofMap fun p _ =>
    Setting.settled_ofMap fun a _ => hvalue a.2

/-- **The draft of a written table** is read back, when the runtimes' names are plain keys. -/
theorem draftOf?_runtimes {t : CatalogTable} (ht : t.Writable)
    (hplain : ∀ r ∈ t.keys, Setting.IsPlainKey r) :
    Catalog.draftOf? (t.map runtimeSetting).toList = some t.draft := by
  have hlayer : (Setting.ofLayer (t.map runtimeSetting).toList).members =
      (t.map runtimeSetting).toList := by
    rw [Setting.ofLayer_ofMap fun r hr =>
      ⟨hplain r.1 (List.mem_map_of_mem hr), settled_runtimeSetting r.2⟩]
    rfl
  have hread : Setting.readMembers? RuntimeDraft.ofSetting? (t.map runtimeSetting).toList =
      some t.draft.toList :=
    Setting.readMembers?_map fun r hr => ofSetting?_runtime (ht.named r hr)
  simp only [Catalog.draftOf?, hlayer, hread, Option.bind_eq_bind, Option.bind_some,
    Option.pure_def, SortedMap.ofList_toList]

end CatalogTable

/-! ## The catalog that is read -/

/-- No two protocols have the same name. -/
theorem Protocol.name_injective {p p' : Protocol} (h : p.name = p'.name) : p = p' := by
  have hread := Protocol.ofName?_name p
  rw [h, Protocol.ofName?_name] at hread
  exact (Option.some.inj hread).symm

namespace ProtocolTable

/-- Under a name stand the entries of the protocol with this name. -/
theorem get?_byName (ps : ProtocolTable) (name : String) (e : Entry) :
    ps.byName.get? name = some e ↔ ∃ p, p.name = name ∧ ps.get? p = some e := by
  rw [byName, SortedMap.get?_ofList]
  constructor
  · intro h
    obtain ⟨⟨p, e'⟩, hmem, heq⟩ :=
      List.mem_map.1 (List.mem_reverse.1 (SortedMap.mem_of_lookup_eq_some h))
    obtain ⟨rfl, rfl⟩ := Prod.mk.inj heq
    exact ⟨p, rfl, (SortedMap.mem_toList_iff ps p e').1 hmem⟩
  · rintro ⟨p, rfl, hp⟩
    have hmem : (p.name, e) ∈ (ps.toList.map fun e => (e.1.name, e.2)).reverse :=
      List.mem_reverse.2 (List.mem_map.2 ⟨(p, e), (SortedMap.mem_toList_iff ps p e).2 hp, rfl⟩)
    cases hfound : (ps.toList.map fun e => (e.1.name, e.2)).reverse.lookup p.name with
    | none => exact absurd (List.lookup_eq_none_iff.1 hfound _ hmem) (by simp)
    | some e' =>
      obtain ⟨⟨p', e''⟩, hmem', heq⟩ :=
        List.mem_map.1 (List.mem_reverse.1 (SortedMap.mem_of_lookup_eq_some hfound))
      obtain ⟨hname, rfl⟩ := Prod.mk.inj heq
      obtain rfl := Protocol.name_injective hname
      rw [← hp]
      exact ((SortedMap.mem_toList_iff ps p' e'').1 hmem').symm

/-- The drafts of a type are those of its entries. -/
theorem get?_drafts (ps : ProtocolTable) (name : String) (d : EntryDraft) :
    ps.drafts.get? name = some d ↔
      ∃ p e, p.name = name ∧ ps.get? p = some e ∧ e.draft = d := by
  rw [drafts, SortedMap.get?_map, Option.map_eq_some_iff]
  constructor
  · rintro ⟨e, he, hdraft⟩
    obtain ⟨p, hname, hp⟩ := (get?_byName ps name e).1 he
    exact ⟨p, e, hname, hp, hdraft⟩
  · rintro ⟨p, e, hname, hp, hdraft⟩
    exact ⟨e, (get?_byName ps name e).2 ⟨p, hname, hp⟩, hdraft⟩

/-- The drafts of a type with a protocol are clear. -/
theorem clearKeys_drafts {ps : ProtocolTable} (hps : ps.isEmpty = false) :
    ClearKeys ps.drafts := by
  have hkeys : ∀ name ∈ ps.drafts.keys, ∃ p : Protocol, p.name = name := by
    intro name hname
    obtain ⟨d, hd⟩ := (SortedMap.mem_keys_iff _ name).1 hname
    obtain ⟨p, -, hp, -, -⟩ := (get?_drafts ps name d).1 hd
    exact ⟨p, hp⟩
  constructor
  · obtain ⟨⟨p, e⟩, l, hlist⟩ := List.exists_cons_of_ne_nil (List.isEmpty_eq_false_iff.1 hps)
    have hp : ps.get? p = some e := (SortedMap.mem_toList_iff ps p e).1 (by rw [hlist]; simp)
    exact List.ne_nil_of_mem ((SortedMap.mem_keys_iff _ p.name).2
      ⟨e.draft, (get?_drafts ps p.name e.draft).2 ⟨p, e, rfl, hp, rfl⟩⟩)
  · intro name hname
    obtain ⟨p, rfl⟩ := hkeys name hname
    exact ⟨p, Protocol.ofName?_name p⟩
  · intro name hname name' hname' heq
    obtain ⟨p, rfl⟩ := hkeys name hname
    obtain ⟨p', rfl⟩ := hkeys name' hname'
    rw [Protocol.ofName?_name, Protocol.ofName?_name] at heq
    rw [Option.some.inj heq]
  · intro name d hd
    obtain ⟨-, e, -, -, rfl⟩ := (get?_drafts ps name d).1 hd
    exact ⟨rfl, rfl, rfl, rfl⟩

end ProtocolTable

/-- An entry's draft gives the entry. -/
theorem Entry.gives_draft (e : Entry) : e.draft.Gives e.withoutBlankArgs :=
  ⟨rfl, rfl, rfl, rfl, rfl⟩

/-- What is made of the drafts of a type are its entries. -/
theorem Filled.eq_map {ps table : ProtocolTable} (h : Filled ps.drafts.toList table) :
    table = ps.map Entry.withoutBlankArgs := by
  refine SortedMap.ext_get? fun p => Option.ext fun e => ?_
  rw [h.get?_iff, SortedMap.get?_map, Option.map_eq_some_iff]
  constructor
  · rintro ⟨name, d, hmem, hname, hgives⟩
    obtain ⟨p', e', rfl, hp, rfl⟩ :=
      (ProtocolTable.get?_drafts ps name d).1 ((SortedMap.mem_toList_iff _ name d).1 hmem)
    rw [Protocol.ofName?_name] at hname
    obtain rfl := Option.some.inj hname
    exact ⟨e', hp, e'.gives_draft.unique hgives⟩
  · rintro ⟨e', hp, rfl⟩
    exact ⟨p.name, e'.draft, (SortedMap.mem_toList_iff _ _ _).2
      ((ProtocolTable.get?_drafts ps _ _).2 ⟨p, e', rfl, hp, rfl⟩), Protocol.ofName?_name p,
      e'.gives_draft⟩

namespace CatalogTable

/-- The runtime with these entries. -/
def runtime (types : SortedMap String ProtocolTable) : ServingRuntime :=
  { inferenceTypes := types.map fun ps => ps.map Entry.withoutBlankArgs }

/-- The catalog with the entries of a table. -/
def catalog (t : CatalogTable) : Catalog := ⟨t.map runtime⟩

/-- What is made of the draft of a runtime are its entries. -/
theorem eq_runtime {types : SortedMap String ProtocolTable} {r : ServingRuntime}
    (h : (runtimeDraft types).CompletedBy r) : r = runtime types := by
  have htypes : r.inferenceTypes = types.map fun ps => ps.map Entry.withoutBlankArgs := by
    refine SortedMap.eq_map_of_keys ?_ fun inferenceType ps hps => ?_
    · rw [h.types, runtimeDraft, SortedMap.keys_map]
    · obtain ⟨table, htable, hfilled⟩ := h.tables inferenceType ps.drafts
        (by rw [runtimeDraft, SortedMap.get?_map, hps, Option.map_some])
      rw [htable, hfilled.eq_map]
  obtain ⟨containers, defaultQuery, inferenceTypes⟩ := r
  obtain rfl : containers = [] := h.containers
  obtain rfl : defaultQuery = none := h.defaultQuery
  obtain rfl : inferenceTypes = _ := htypes
  rfl

/-- What is made of the draft of a table is its catalog. -/
theorem eq_catalog {t : CatalogTable} {c : Catalog} (h : CatalogDraft.CompletedBy t.draft c) :
    c = t.catalog := by
  have hruntimes : c.runtimes = t.map runtime := by
    refine SortedMap.eq_map_of_keys ?_ fun name types htypes => ?_
    · rw [h.runtimes, draft, SortedMap.keys_map]
    · obtain ⟨r, hr, hcompleted⟩ := h.runtime name (runtimeDraft types)
        (by rw [draft, SortedMap.get?_map, htypes, Option.map_some])
      rw [hr, eq_runtime hcompleted]
  obtain ⟨runtimes⟩ := c
  obtain rfl : runtimes = _ := hruntimes
  rfl

/-- The draft of a table that can be written is clear. -/
theorem Writable.isClear_draft {t : CatalogTable} (ht : t.Writable) :
    CatalogDraft.IsClear t.draft := by
  intro name runtime hruntime inferenceType drafts hdrafts
  rw [draft, SortedMap.get?_map, Option.map_eq_some_iff] at hruntime
  obtain ⟨types, htypes, rfl⟩ := hruntime
  rw [runtimeDraft, SortedMap.get?_map, Option.map_eq_some_iff] at hdrafts
  obtain ⟨ps, hps, rfl⟩ := hdrafts
  exact ProtocolTable.clearKeys_drafts (ht.some_protocol (name, types)
    ((SortedMap.mem_toList_iff _ _ _).2 htypes) (inferenceType, ps)
    ((SortedMap.mem_toList_iff _ _ _).2 hps))

/-- **A written table is read back as its catalog**, when the runtimes' names are plain keys. -/
theorem ofToml_of_plain {t : CatalogTable} (ht : t.Writable)
    (hplain : ∀ r ∈ t.keys, Setting.IsPlainKey r) : Catalog.ofToml t.document = .ok t.catalog := by
  obtain ⟨c, hc, hcompleted⟩ := ht.isClear_draft.exists_completedBy
  rw [Catalog.ofToml, ofChars?_document, Catalog.ofLayer, Option.bind_some,
    draftOf?_runtimes ht hplain]
  exact eq_catalog hcompleted ▸ hc

end CatalogTable

/-! ## Names that are lost -/

/-- Reading the values of members keeps their names. -/
theorem Setting.map_fst_readMembers? {α : Type} {f : Setting → Option α}
    {ms : List (String × Setting)} :
    ∀ {entries : List (String × α)}, Setting.readMembers? f ms = some entries →
      entries.map Prod.fst = ms.map Prod.fst := by
  induction ms with
  | nil =>
    intro entries h
    obtain rfl := Option.some.inj h
    rfl
  | cons e ms ih =>
    intro entries h
    rw [Setting.readMembers?_cons] at h
    obtain ⟨a, -, hrest⟩ := Option.bind_eq_some_iff.1 h
    obtain ⟨rest, hread, rfl⟩ := Option.map_eq_some_iff.1 hrest
    rw [List.map_cons, List.map_cons, ih hread]

/-- **A runtime is never named by a path of more than one step**, whatever layer its catalog is
read from. -/
theorem Catalog.isPlainKey_of_ofLayer {layer : Option (List (String × Setting))} {c : Catalog}
    (h : Catalog.ofLayer layer = .ok c) : ∀ r ∈ c.runtimes.keys, Setting.IsPlainKey r := by
  unfold Catalog.ofLayer at h
  split at h
  · next d hdraft =>
    obtain ⟨members, -, hdraft⟩ := Option.bind_eq_some_iff.1 hdraft
    obtain ⟨entries, hread, hentries⟩ := Option.bind_eq_some_iff.1 hdraft
    obtain rfl := Option.some.inj hentries
    intro r hr
    rw [(CatalogDraft.completedBy_of_ofDraft h).2.runtimes, SortedMap.mem_keys_iff] at hr
    obtain ⟨d, hd⟩ := hr
    rw [SortedMap.get?_ofList] at hd
    have hmem := List.mem_map_of_mem (f := Prod.fst)
      (List.mem_reverse.1 (SortedMap.mem_of_lookup_eq_some hd))
    rw [Setting.map_fst_readMembers? hread] at hmem
    obtain ⟨e, he, rfl⟩ := List.mem_map.1 hmem
    exact Setting.isPlainKey_of_mem_ofLayer members e he
  · cases h

/-- What is found is an entry of a runtime that the catalog has. -/
theorem Catalog.mem_keys_of_resolve {c : Catalog} {runtime inferenceType : String}
    {protocol : Protocol} {e : Entry} (h : c.resolve runtime inferenceType protocol = .ok e) :
    runtime ∈ c.runtimes.keys := by
  simp only [Catalog.resolve, Catalog.protocols, Catalog.runtime] at h
  cases hget : c.runtimes.get? runtime with
  | none => simp [hget] at h
  | some r => exact (SortedMap.mem_keys_iff _ _).2 ⟨r, hget⟩

namespace CatalogTable

/-- All entries of a table, by runtime, inference type and protocol. -/
def listed (t : CatalogTable) : List Catalog.Listed :=
  t.toList.flatMap fun r => r.2.toList.flatMap fun i => i.2.toList.map fun p =>
    ⟨r.1, i.1, p.1, p.2.withoutBlankArgs⟩

/-- The entry of a runtime, an inference type and a protocol. -/
def entry? (t : CatalogTable) (runtime inferenceType : String) (protocol : Protocol) :
    Option Entry :=
  ((t.get? runtime).bind fun types => types.get? inferenceType).bind fun ps => ps.get? protocol

/-- The catalog has exactly what the table has: its runtimes, its entries in their order, and each
entry where it was written. -/
structure KeptBy (t : CatalogTable) (c : Catalog) : Prop where
  runtimes : c.runtimes.keys = t.keys
  entries : c.entries = t.listed
  resolve : ∀ runtime inferenceType protocol e,
    c.resolve runtime inferenceType protocol = .ok e ↔
      (t.entry? runtime inferenceType protocol).map Entry.withoutBlankArgs = some e

/-- The catalog of a table has exactly what the table has. -/
theorem keptBy_catalog (t : CatalogTable) : t.KeptBy t.catalog where
  runtimes := SortedMap.keys_map _ t
  entries := by
    simp only [Catalog.entries, catalog, SortedMap.map, runtime, List.flatMap_map, List.map_map]
    rfl
  resolve := by
    intro name inferenceType protocol e
    simp only [Catalog.resolve, Catalog.protocols, Catalog.runtime, entry?, catalog,
      SortedMap.get?_map]
    cases t.get? name with
    | none => simp
    | some types =>
      simp only [Option.map_some, runtime, SortedMap.get?_map, Option.bind_some]
      cases types.get? inferenceType with
      | none => simp
      | some ps =>
        simp only [Option.map_some, SortedMap.get?_map, Option.bind_some]
        cases ps.get? protocol <;> simp

/-- **Catalogs that are written and read back.** The document of a table is read as a catalog that
has exactly what the table has, if and only if no runtime is named by a path of more than one
step. -/
theorem ofToml_document_iff {t : CatalogTable} (ht : t.Writable) :
    (∃ c, Catalog.ofToml t.document = .ok c ∧ t.KeptBy c) ↔
      ∀ r ∈ t.keys, Setting.IsPlainKey r := by
  constructor
  · rintro ⟨c, hc, hkept⟩ r hr
    rw [← hkept.runtimes] at hr
    exact Catalog.isPlainKey_of_ofLayer hc r hr
  · intro hplain
    exact ⟨t.catalog, ofToml_of_plain ht hplain, t.keptBy_catalog⟩

/-- A runtime with a gap and a point in its name, and an entry for either protocol. -/
def gappedTable : CatalogTable :=
  .ofList [("granite 3.1", .ofList [("all.tokens", .ofList
    [(.http, { endpoint := "v1/generate", header := "Content-Type: \"text\"", body := "\\n\n" }),
      (.grpc, { endpoint := "a.B/C", header := "", body := "", args := some "proto=a.proto",
                fields := .ofList [("response_text", "text"), ("", "\x7f")] })])])]

/-- A table whose runtime has a gap in its name is kept. -/
theorem ofToml_gappedTable : gappedTable.Writable ∧
    ∃ c, Catalog.ofToml gappedTable.document = .ok c ∧ gappedTable.KeptBy c := by
  have hwritable : gappedTable.Writable := by decide
  have hplain : ∀ r ∈ gappedTable.keys, Setting.IsPlainKey r := by decide
  exact ⟨hwritable, (ofToml_document_iff hwritable).2 hplain⟩

/-- A table whose runtime is named by a path of two steps. -/
def versionedTable : CatalogTable :=
  .ofList [("granite.v3", .ofList [("all-tokens", .ofList
    [(.http, { endpoint := "v1/generate", header := "", body := "",
               fields := .ofList [("response_text", "text")] })])])]

/-- The entry of a runtime that is named by a path of two steps is not found where it was
written. -/
theorem not_ofToml_versionedTable : versionedTable.Writable ∧
    (versionedTable.entry? "granite.v3" "all-tokens" .http).isSome = true ∧
    ¬ ∃ c e, Catalog.ofToml versionedTable.document = .ok c ∧
      c.resolve "granite.v3" "all-tokens" .http = .ok e := by
  refine ⟨by decide, by decide, ?_⟩
  rintro ⟨c, e, hc, hresolve⟩
  -- A runtime of this name would have to stand for itself as a key.
  have hplain := Catalog.isPlainKey_of_ofLayer hc _ (Catalog.mem_keys_of_resolve hresolve)
  exact absurd hplain (by decide)

end CatalogTable

end ModelProbe
