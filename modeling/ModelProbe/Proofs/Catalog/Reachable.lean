import ModelProbe.Proofs.Catalog.Merge
import ModelProbe.Proofs.Catalog.Source
import ModelProbe.Proofs.Text.Trimming
/-!
# The catalogs that can come about

Catalogs are the empty one, the built-in one, those that are read from a text or a file, and those
that are layered from others. In all of them every inference type has a protocol, and the options
of an entry are missing or have a word. So a lookup that fails can name alternatives.

* `Reachable`: how catalogs come about.
* `Sound`: what holds in all of them, kept by every step.
* `Reachable.sound_lookups`: what lookups in them find and say.
-/

namespace ModelProbe

/-! ## Sound catalogs -/

/-- The options of an entry are missing, or they have a word. -/
def Entry.ArgsSay (e : Entry) : Prop := ∀ args, e.args = some args → Text.words args.toList ≠ []

/-- The table of an inference type has a protocol, and the options in it say something. -/
def ProtocolTable.Sound (table : ProtocolTable) : Prop :=
  table.keys ≠ [] ∧ table.All Entry.ArgsSay

/-- Every inference type of the runtime is sound. -/
def ServingRuntime.Sound (r : ServingRuntime) : Prop := r.inferenceTypes.All ProtocolTable.Sound

/-- Every runtime of the catalog is sound. -/
def Catalog.Sound (c : Catalog) : Prop := c.runtimes.All ServingRuntime.Sound

instance : DecidablePred Entry.ArgsSay := fun e =>
  decidable_of_iff (e.args.all (fun args => !(Text.words args.toList).isEmpty) = true) (by
    unfold Entry.ArgsSay
    cases e.args <;> simp)

instance : DecidablePred ProtocolTable.Sound := fun table =>
  decidable_of_iff (table.keys.isEmpty = false ∧ table.All Entry.ArgsSay) (by
    unfold ProtocolTable.Sound
    simp)

instance : DecidablePred ServingRuntime.Sound := fun r =>
  inferInstanceAs (Decidable (r.inferenceTypes.All ProtocolTable.Sound))

instance : DecidablePred Catalog.Sound := fun c =>
  inferInstanceAs (Decidable (c.runtimes.All ServingRuntime.Sound))

/-- Options that say something make transport options. -/
theorem Entry.ArgsSay.transportArgs_ne_nil {e : Entry} (h : e.ArgsSay) {args : String}
    (hargs : e.args = some args) : e.transportArgs ≠ [] := by
  unfold transportArgs
  rw [hargs, Option.getD_some]
  exact mt List.map_eq_nil_iff.1 (h args hargs)

/-! ## Layered catalogs -/

/-- Layered tables are sound if both are. -/
theorem ProtocolTable.Sound.union {lower upper : ProtocolTable} (hlower : lower.Sound)
    (hupper : upper.Sound) : ProtocolTable.Sound (lower.union upper) := by
  refine ⟨fun hnil => ?_, hlower.2.mergeWith (fun _ _ _ h => h) hupper.2⟩
  obtain ⟨protocol, hprotocol⟩ := List.exists_mem_of_ne_nil _ hlower.1
  have hmem : protocol ∈ (lower.union upper).keys :=
    (SortedMap.mem_keys_mergeWith _ lower upper protocol).2 (.inl hprotocol)
  rw [hnil] at hmem
  cases hmem

/-- Layered runtimes are sound if both are. -/
theorem ServingRuntime.Sound.overlay {lower upper : ServingRuntime} (hlower : lower.Sound)
    (hupper : upper.Sound) : (lower.overlay upper).Sound :=
  SortedMap.All.mergeWith (fun _ _ => ProtocolTable.Sound.union) hlower hupper

/-- Layered catalogs are sound if both are. -/
theorem Catalog.Sound.merge {lower upper : Catalog} (hlower : lower.Sound)
    (hupper : upper.Sound) : (lower.merge upper).Sound :=
  SortedMap.All.mergeWith (fun _ _ => ServingRuntime.Sound.overlay) hlower hupper

/-! ## Catalogs that are read -/

/-- Filled tables say something wherever they have options, for blank ones are left out. -/
theorem Filled.all_argsSay {drafts : List (String × EntryDraft)} {table : ProtocolTable}
    (h : Filled drafts table) : table.All Entry.ArgsSay := by
  rw [SortedMap.all_iff]
  intro protocol e he args hargs
  obtain ⟨key, draft, -, -, hgives⟩ := (h.get?_iff protocol e).1 he
  rw [hgives.args] at hargs
  have hblank := (Option.filter_eq_some_iff.1 hargs).2
  intro hnil
  rw [(Text.words_eq_nil_iff _).1 hnil] at hblank
  cases hblank

/-- The catalog of a draft is sound: each type of a clear draft has a key. -/
theorem Catalog.sound_of_ofDraft {d : CatalogDraft} {c : Catalog}
    (h : Catalog.ofDraft d = .ok c) : c.Sound := by
  obtain ⟨hclear, hcompleted⟩ := CatalogDraft.completedBy_of_ofDraft h
  refine SortedMap.all_of_keys hcompleted.runtimes fun name draft hdraft => ?_
  obtain ⟨r, hr, hruntime⟩ := hcompleted.runtime name draft hdraft
  refine ⟨r, hr, SortedMap.all_of_keys hruntime.types fun inferenceType drafts hdrafts => ?_⟩
  obtain ⟨table, htable, hfilled⟩ := hruntime.tables inferenceType drafts hdrafts
  refine ⟨table, htable, fun hnil => ?_, hfilled.all_argsSay⟩
  -- A table without keys would be that of a type without keys.
  apply (hclear name draft hdraft inferenceType drafts hdrafts).some_key
  have hsize : drafts.toList.length = 0 := by
    rw [← hfilled.size, SortedMap.size, ← List.length_map (f := Prod.fst)]
    exact congrArg List.length hnil
  rw [SortedMap.keys, List.eq_nil_of_length_eq_zero hsize, List.map_nil]

/-- The catalog of a layer is that of a draft. -/
theorem Catalog.sound_of_ofLayer {layer : Option (List (String × Setting))} {c : Catalog}
    (h : Catalog.ofLayer layer = .ok c) : c.Sound := by
  unfold Catalog.ofLayer at h
  split at h
  · exact sound_of_ofDraft h
  · cases h

namespace Catalog

/-- The built-in catalog is sound. -/
theorem sound_builtin : builtin.Sound := by decide +kernel

/-! ## How catalogs come about -/

/-- The catalogs that come of the empty and the built-in one by reading texts and files and by
layering. -/
inductive Reachable : Catalog → Prop
  | empty : Reachable empty
  | builtin : Reachable builtin
  | ofToml {text : String} {c : Catalog} (h : ofToml text = .ok c) : Reachable c
  | load {ws : Workspace} {path : String} {c : Catalog} (h : load ws path = .ok c) : Reachable c
  | merge {lower upper : Catalog} (hlower : Reachable lower) (hupper : Reachable upper) :
    Reachable (lower.merge upper)

/-- **Every catalog that can come about is sound.** -/
theorem Reachable.sound {c : Catalog} (h : c.Reachable) : c.Sound := by
  induction h with
  | empty => exact SortedMap.all_empty _
  | builtin => exact sound_builtin
  | ofToml h => exact sound_of_ofLayer h
  | load h =>
    unfold Catalog.load at h
    split at h
    · cases h
    · exact sound_of_ofLayer h
  | merge _ _ hlower hupper => exact hlower.merge hupper

/-! ## Lookups -/

/-- What is said when nothing is found: the first level that lacks what is asked for, and what that
level has instead. A level of protocols has something. -/
inductive NotFound (runtime inferenceType : String) (protocol : Protocol) : Failure → Prop
  | runtime {known : List String} (absent : runtime ∉ known) :
    NotFound runtime inferenceType protocol (.unsupportedRuntime runtime known)
  | inferenceType {known : List String} (absent : inferenceType ∉ known) :
    NotFound runtime inferenceType protocol
      (.unsupportedInferenceType runtime inferenceType known)
  | protocol {known : List Protocol} (absent : protocol ∉ known) (some_known : known ≠ []) :
    NotFound runtime inferenceType protocol
      (.unsupportedProtocol runtime inferenceType protocol known)

/-- A level of a lookup fails further down, or because it does not have the key. -/
theorem descend_eq_error {κ α : Type} [Ord κ] [Std.LawfulEqOrd κ] {m : SortedMap κ α} {key : κ}
    {missing : List κ → Failure} {next : α → Except Failure Entry} {f : Failure}
    (h : descend m key missing next = .error f) :
    (∃ x, m.get? key = some x ∧ next x = .error f) ∨ key ∉ m.keys ∧ f = missing m.keys := by
  unfold descend at h
  split at h
  · next x hx => exact .inl ⟨x, hx, h⟩
  · next hnone =>
    exact .inr ⟨(SortedMap.not_mem_keys_iff m key).2 hnone, (Except.error.inj h).symm⟩

/-- What a lookup in a sound catalog says when it finds nothing. -/
theorem Sound.notFound {c : Catalog} (hc : c.Sound) {runtime inferenceType : String}
    {protocol : Protocol} {f : Failure}
    (h : c.resolve runtime inferenceType protocol = .error f) :
    NotFound runtime inferenceType protocol f := by
  rw [resolve_eq_descend] at h
  rcases descend_eq_error h with ⟨r, hr, h⟩ | ⟨habsent, rfl⟩
  · rcases descend_eq_error h with ⟨table, htable, h⟩ | ⟨habsent, rfl⟩
    · rcases descend_eq_error h with ⟨e, -, h⟩ | ⟨habsent, rfl⟩
      · cases h
      · have hsound : table.Sound :=
          SortedMap.all_iff.1 (SortedMap.all_iff.1 hc runtime r hr) inferenceType table htable
        exact .protocol habsent hsound.1
    · exact .inferenceType habsent
  · exact .runtime habsent

/-- A runtime that is not found is none of those that there are. -/
theorem runtime_eq_error {c : Catalog} {name : String} {f : Failure}
    (h : c.runtime name = .error f) :
    f = .unsupportedRuntime name c.runtimes.keys ∧ name ∉ c.runtimes.keys := by
  unfold Catalog.runtime at h
  split at h
  · cases h
  · next hnone =>
    exact ⟨(Except.error.inj h).symm, (SortedMap.not_mem_keys_iff _ name).2 hnone⟩

/-- An entry is listed where it stands. -/
theorem exists_of_mem_entries {c : Catalog} {l : Listed} (h : l ∈ c.entries) :
    ∃ r table, (l.runtime, r) ∈ c.runtimes.toList ∧
      (l.inferenceType, table) ∈ r.inferenceTypes.toList ∧ (l.protocol, l.entry) ∈ table.toList := by
  unfold entries at h
  obtain ⟨⟨runtime, r⟩, hr, h⟩ := List.mem_flatMap.1 h
  obtain ⟨⟨inferenceType, table⟩, htable, h⟩ := List.mem_flatMap.1 h
  obtain ⟨⟨protocol, e⟩, he, rfl⟩ := List.mem_map.1 h
  exact ⟨r, table, hr, htable, he⟩

/-- **Catalogs that come about.** In every catalog that can come about each inference type has a
protocol, and options have a word. So a lookup that finds nothing never lists what it was asked
for, it lists some protocols when it got as far as these, and options make transport options. -/
theorem Reachable.sound_lookups {c : Catalog} (h : c.Reachable) :
    (∀ name r, c.runtimes.get? name = some r → ∀ inferenceType table,
        r.inferenceTypes.get? inferenceType = some table → table.keys ≠ []) ∧
      (∀ l ∈ c.entries, ∀ args, l.entry.args = some args →
        Text.words args.toList ≠ [] ∧ l.entry.transportArgs ≠ []) ∧
      (∀ runtime inferenceType protocol f, c.resolve runtime inferenceType protocol = .error f →
        NotFound runtime inferenceType protocol f) ∧
      ∀ name f, c.runtime name = .error f →
        ∃ known, f = .unsupportedRuntime name known ∧ name ∉ known := by
  have hsound := h.sound
  refine ⟨fun name r hr inferenceType table htable => ?_, fun l hl args hargs => ?_,
    fun runtime inferenceType protocol f hf => hsound.notFound hf, fun name f hf => ?_⟩
  · exact (SortedMap.all_iff.1 (SortedMap.all_iff.1 hsound name r hr) inferenceType table htable).1
  · obtain ⟨r, table, hr, htable, he⟩ := exists_of_mem_entries hl
    have hsay : l.entry.ArgsSay := ((hsound _ hr) _ htable).2 _ he
    exact ⟨hsay args hargs, hsay.transportArgs_ne_nil hargs⟩
  · exact ⟨c.runtimes.keys, runtime_eq_error hf⟩

/-- A layer with blank options in an entry, and with an inference type that the built-in catalog does
not have. -/
def blankArgsTable : CatalogTable :=
  .ofList [("vllm-runtime", .ofList [
    ("completions", .ofList [(.http, {
      endpoint := "v1", header := "", body := "", args := some " " })]),
    ("embed", .ofList [(.grpc, {
      endpoint := "e.E/Embed", header := "", body := "", args := some " proto=e.proto" })])])]

/-- With this layer on top the built-in catalog has an inference type without HTTP, and says what it
has instead. -/
theorem sound_lookups_blankArgsTable : (builtin.merge blankArgsTable.catalog).Reachable ∧
    (builtin.merge blankArgsTable.catalog).resolve "vllm-runtime" "embed" .http =
      .error (.unsupportedProtocol "vllm-runtime" "embed" .http [.grpc]) ∧
    NotFound "vllm-runtime" "embed" .http
      (.unsupportedProtocol "vllm-runtime" "embed" .http [.grpc]) := by
  have hwritable : blankArgsTable.Writable := by decide
  have hplain : ∀ r ∈ blankArgsTable.keys, Setting.IsPlainKey r := by decide
  have hreachable : (builtin.merge blankArgsTable.catalog).Reachable :=
    .merge .builtin (.ofToml (CatalogTable.ofToml_of_plain hwritable hplain))
  have hmissing : (builtin.merge blankArgsTable.catalog).resolve "vllm-runtime" "embed" .http =
      .error (.unsupportedProtocol "vllm-runtime" "embed" .http [.grpc]) := by rfl
  obtain ⟨-, -, hlookups, -⟩ := hreachable.sound_lookups
  exact ⟨hreachable, hmissing, hlookups _ _ _ _ hmissing⟩

end Catalog

end ModelProbe
