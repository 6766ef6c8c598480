import Mathlib.Data.List.Sort
import ModelProbe.Proofs.Catalog.Reachable
import ModelProbe.Proofs.Text.Utf8
/-!
# Looking up and listing

What a catalog holds shows in three ways: an entry is looked up, the runtimes and their inference
types are listed, and all entries are enumerated. A lookup finds exactly what is enumerated; where
it finds nothing, it says which of the lists lacks what it was asked for.

* `pairwise_entries`: the enumeration is increasing.
* `mem_entries_iff`: what is enumerated, in terms of the three maps.
* `protocolsOf_eq_keys`: the protocols of the entries of one inference type.
* `resolve_listed`: lookups, lists and the enumeration agree.
-/

namespace ModelProbe

/-! ## The order of the enumeration -/

/-- A name comes before another one byte by byte. -/
def NameBefore (a b : String) : Prop := Text.utf8Bytes a.toList < Text.utf8Bytes b.toList

/-- Names are compared as their bytes are. -/
theorem compare_eq_lt_iff_nameBefore (a b : String) : compare a b = .lt ↔ NameBefore a b := by
  show compareOfLessAndEq a b = .lt ↔ _
  rw [compareOfLessAndEq_eq_lt, String.lt_iff, NameBefore, Text.utf8Bytes_lt_iff]

/-- HTTP comes before gRPC, and nothing else comes before a protocol. -/
theorem Protocol.compare_eq_lt_iff (p q : Protocol) :
    compare p q = .lt ↔ p = .http ∧ q = .grpc := by
  cases p <;> cases q <;> decide

namespace Catalog

namespace Listed

/-- An entry comes before another one: by its runtime, then by its inference type, and HTTP before
gRPC. -/
def Before (a b : Listed) : Prop :=
  NameBefore a.runtime b.runtime ∨
    a.runtime = b.runtime ∧ (NameBefore a.inferenceType b.inferenceType ∨
      a.inferenceType = b.inferenceType ∧ a.protocol = .http ∧ b.protocol = .grpc)

/-- The place of an entry: its runtime, inference type and protocol. -/
def place (l : Listed) : String × String × Protocol := (l.runtime, l.inferenceType, l.protocol)

/-- What comes before an entry stands at another place. -/
theorem Before.place_ne {a b : Listed} (h : a.Before b) : a.place ≠ b.place := by
  intro heq
  obtain ⟨hruntime, heq⟩ := Prod.mk.inj heq
  obtain ⟨htype, hprotocol⟩ := Prod.mk.inj heq
  rcases h with h | ⟨-, h | ⟨-, hhttp, hgrpc⟩⟩
  · rw [NameBefore, hruntime] at h
    exact List.lt_irrefl _ h
  · rw [NameBefore, htype] at h
    exact List.lt_irrefl _ h
  · rw [hhttp, hgrpc] at hprotocol
    cases hprotocol

end Listed

/-- **The entries are enumerated in increasing order**: by runtime, inference type and protocol. -/
theorem pairwise_entries (c : Catalog) : c.entries.Pairwise Listed.Before := by
  rw [entries, List.pairwise_flatMap]
  refine ⟨fun runtime _ => ?_, c.runtimes.sorted.imp fun {a b} hab x hx y hy => ?_⟩
  · rw [List.pairwise_flatMap]
    refine ⟨fun type _ => ?_, runtime.2.inferenceTypes.sorted.imp fun {a b} hab x hx y hy => ?_⟩
    · rw [List.pairwise_map]
      exact type.2.sorted.imp fun hab =>
        .inr ⟨rfl, .inr ⟨rfl, (Protocol.compare_eq_lt_iff _ _).1 hab⟩⟩
    · obtain ⟨_, _, rfl⟩ := List.mem_map.1 hx
      obtain ⟨_, _, rfl⟩ := List.mem_map.1 hy
      exact .inr ⟨rfl, .inl ((compare_eq_lt_iff_nameBefore _ _).1 hab)⟩
  · obtain ⟨_, _, hx⟩ := List.mem_flatMap.1 hx
    obtain ⟨_, _, rfl⟩ := List.mem_map.1 hx
    obtain ⟨_, _, hy⟩ := List.mem_flatMap.1 hy
    obtain ⟨_, _, rfl⟩ := List.mem_map.1 hy
    exact .inl ((compare_eq_lt_iff_nameBefore _ _).1 hab)

/-! ## What is enumerated -/

/-- **An entry is enumerated exactly where the maps hold it.** -/
theorem mem_entries_iff (c : Catalog) (runtime inferenceType : String) (protocol : Protocol)
    (e : Entry) :
    ⟨runtime, inferenceType, protocol, e⟩ ∈ c.entries ↔
      ∃ r table, c.runtimes.get? runtime = some r ∧
        r.inferenceTypes.get? inferenceType = some table ∧ table.get? protocol = some e := by
  constructor
  · intro h
    obtain ⟨r, table, hr, htable, he⟩ := exists_of_mem_entries h
    exact ⟨r, table, (SortedMap.mem_toList_iff _ _ _).1 hr,
      (SortedMap.mem_toList_iff _ _ _).1 htable, (SortedMap.mem_toList_iff _ _ _).1 he⟩
  · rintro ⟨r, table, hr, htable, he⟩
    rw [entries, List.mem_flatMap]
    refine ⟨(runtime, r), (SortedMap.mem_toList_iff _ _ _).2 hr, ?_⟩
    rw [List.mem_flatMap]
    refine ⟨(inferenceType, table), (SortedMap.mem_toList_iff _ _ _).2 htable, ?_⟩
    exact List.mem_map.2 ⟨(protocol, e), (SortedMap.mem_toList_iff _ _ _).2 he, rfl⟩

/-- The protocols of the entries of an inference type, as they are enumerated. -/
def protocolsOf (c : Catalog) (runtime inferenceType : String) : List Protocol :=
  (c.entries.filter fun l => l.runtime = runtime ∧ l.inferenceType = inferenceType).map
    Listed.protocol

theorem mem_protocolsOf_iff (c : Catalog) (runtime inferenceType : String) (protocol : Protocol) :
    protocol ∈ c.protocolsOf runtime inferenceType ↔
      ∃ e, ⟨runtime, inferenceType, protocol, e⟩ ∈ c.entries := by
  rw [protocolsOf, List.mem_map]
  constructor
  · rintro ⟨l, hl, rfl⟩
    obtain ⟨hmem, hplace⟩ := List.mem_filter.1 hl
    obtain ⟨rfl, rfl⟩ := of_decide_eq_true hplace
    exact ⟨l.entry, hmem⟩
  · rintro ⟨e, he⟩
    exact ⟨_, List.mem_filter.2 ⟨he, decide_eq_true ⟨rfl, rfl⟩⟩, rfl⟩

/-- The protocols of one inference type are enumerated in increasing order. -/
theorem pairwise_protocolsOf (c : Catalog) (runtime inferenceType : String) :
    (c.protocolsOf runtime inferenceType).Pairwise fun p q => compare p q = .lt := by
  rw [protocolsOf, List.pairwise_map, List.pairwise_filter]
  refine c.pairwise_entries.imp fun {a b} hab ha hb => ?_
  obtain ⟨hruntime, htype⟩ := of_decide_eq_true ha
  obtain ⟨hruntime', htype'⟩ := of_decide_eq_true hb
  rw [Listed.Before, hruntime, hruntime', htype, htype'] at hab
  -- Both entries have the same runtime and inference type, so only their protocols differ.
  rcases hab with h | ⟨-, h | ⟨-, h⟩⟩
  · exact absurd h (List.lt_irrefl _)
  · exact absurd h (List.lt_irrefl _)
  · exact (Protocol.compare_eq_lt_iff _ _).2 h

/-- **The protocols of an inference type** are the keys of its table. -/
theorem protocolsOf_eq_keys {c : Catalog} {runtime inferenceType : String} {r : ServingRuntime}
    {table : ProtocolTable} (hr : c.runtimes.get? runtime = some r)
    (htable : r.inferenceTypes.get? inferenceType = some table) :
    c.protocolsOf runtime inferenceType = table.keys := by
  let before : Protocol → Protocol → Prop := fun p q => compare p q = .lt
  have : Std.Irrefl before := ⟨fun p hp => by simp [before] at hp⟩
  have : Std.Antisymm before := ⟨fun p q hpq hqp => by
    have hgt := Std.OrientedCmp.gt_of_lt hpq
    rw [hqp] at hgt
    cases hgt⟩
  have hsorted : (c.protocolsOf runtime inferenceType).Pairwise before :=
    c.pairwise_protocolsOf runtime inferenceType
  refine hsorted.eq_of_mem_iff (SortedMap.pairwise_keys table) ?_
  intro protocol
  rw [mem_protocolsOf_iff, SortedMap.mem_keys_iff]
  constructor
  · rintro ⟨e, he⟩
    obtain ⟨r', table', hr', htable', he⟩ := (c.mem_entries_iff _ _ _ _).1 he
    obtain rfl := Option.some.inj (hr.symm.trans hr')
    obtain rfl := Option.some.inj (htable.symm.trans htable')
    exact ⟨e, he⟩
  · rintro ⟨e, he⟩
    exact ⟨e, (c.mem_entries_iff _ _ _ _).2 ⟨r, table, hr, htable, he⟩⟩

/-! ## What a lookup finds -/

theorem inferenceTypes_eq_ok_iff (c : Catalog) (runtime : String) (types : List String) :
    c.inferenceTypes runtime = .ok types ↔
      ∃ r, c.runtimes.get? runtime = some r ∧ types = r.inferenceTypes.keys := by
  unfold inferenceTypes Catalog.runtime
  cases c.runtimes.get? runtime with
  | none => simp
  | some r => simp [eq_comm]

/-- Which list lacks what a lookup asks for, and what the lookup says then. -/
inductive Missing (c : Catalog) (runtime inferenceType : String) (protocol : Protocol) :
    Failure → Prop
  /-- The runtime is not listed. -/
  | runtime (absent : runtime ∉ c.runtimeNames) :
    Missing c runtime inferenceType protocol (.unsupportedRuntime runtime c.runtimeNames)
  /-- The runtime is listed, but the inference type is not listed for it. -/
  | inferenceType {types : List String} (listed : c.inferenceTypes runtime = .ok types)
    (absent : inferenceType ∉ types) :
    Missing c runtime inferenceType protocol
      (.unsupportedInferenceType runtime inferenceType types)
  /-- Both are listed, but no entry of theirs has the protocol. -/
  | protocol {types : List String} (listed : c.inferenceTypes runtime = .ok types)
    (present : inferenceType ∈ types) (absent : protocol ∉ c.protocolsOf runtime inferenceType) :
    Missing c runtime inferenceType protocol
      (.unsupportedProtocol runtime inferenceType protocol (c.protocolsOf runtime inferenceType))

section Level

variable {κ α : Type} [Ord κ] {m : SortedMap κ α} {key : κ} {missing : List κ → Failure}
  {next : α → Except Failure Entry}

/-- A level of a lookup that succeeds has the key, and what follows succeeds. -/
theorem descend_eq_ok {e : Entry} (h : descend m key missing next = .ok e) :
    ∃ x, m.get? key = some x ∧ next x = .ok e := by
  unfold descend at h
  split at h
  · next x hx => exact ⟨x, hx, h⟩
  · cases h

/-- A level that has the key leads to what stands under it. -/
theorem descend_of_get? {x : α} (h : m.get? key = some x) :
    descend m key missing next = next x := by
  rw [descend, h]

/-- A level that lacks the key says which keys it has. -/
theorem descend_of_not_mem [Std.LawfulEqOrd κ] (h : key ∉ m.keys) :
    descend m key missing next = .error (missing m.keys) := by
  rw [descend, (SortedMap.not_mem_keys_iff m key).1 h]

end Level

section Lookup

variable {c : Catalog} {runtime inferenceType : String} {protocol : Protocol} {f : Failure}

/-- A lookup that fails says which list lacks what it asked for. -/
theorem missing_of_resolve (h : c.resolve runtime inferenceType protocol = .error f) :
    Missing c runtime inferenceType protocol f := by
  rw [resolve_eq_descend] at h
  rcases descend_eq_error h with ⟨r, hr, h⟩ | ⟨habsent, rfl⟩
  · have hlisted : c.inferenceTypes runtime = .ok r.inferenceTypes.keys :=
      (inferenceTypes_eq_ok_iff c runtime _).2 ⟨r, hr, rfl⟩
    rcases descend_eq_error h with ⟨table, htable, h⟩ | ⟨habsent, rfl⟩
    · rcases descend_eq_error h with ⟨e, -, h⟩ | ⟨habsent, rfl⟩
      · cases h
      · have hpresent : inferenceType ∈ r.inferenceTypes.keys :=
          (SortedMap.mem_keys_iff _ _).2 ⟨table, htable⟩
        rw [← protocolsOf_eq_keys hr htable] at habsent ⊢
        exact .protocol hlisted hpresent habsent
    · exact .inferenceType hlisted habsent
  · exact .runtime habsent

/-- A lookup fails when a list lacks what it asks for. -/
theorem Missing.resolve (h : Missing c runtime inferenceType protocol f) :
    c.resolve runtime inferenceType protocol = .error f := by
  rw [resolve_eq_descend]
  cases h with
  | runtime absent => exact descend_of_not_mem absent
  | inferenceType listed absent =>
    obtain ⟨r, hr, rfl⟩ := (inferenceTypes_eq_ok_iff c runtime _).1 listed
    rw [descend_of_get? hr, descend_of_not_mem absent]
  | protocol listed present absent =>
    obtain ⟨r, hr, rfl⟩ := (inferenceTypes_eq_ok_iff c runtime _).1 listed
    obtain ⟨table, htable⟩ := (SortedMap.mem_keys_iff _ _).1 present
    rw [protocolsOf_eq_keys hr htable] at absent ⊢
    rw [descend_of_get? hr, descend_of_get? htable, descend_of_not_mem absent]

/-- A lookup finds what the maps hold. -/
theorem resolve_eq_ok_iff (e : Entry) :
    c.resolve runtime inferenceType protocol = .ok e ↔
      ⟨runtime, inferenceType, protocol, e⟩ ∈ c.entries := by
  rw [mem_entries_iff, resolve_eq_descend]
  constructor
  · intro h
    obtain ⟨r, hr, h⟩ := descend_eq_ok h
    obtain ⟨table, htable, h⟩ := descend_eq_ok h
    obtain ⟨e', he, h⟩ := descend_eq_ok h
    obtain rfl := Except.ok.inj h
    exact ⟨r, table, hr, htable, he⟩
  · rintro ⟨r, table, hr, htable, he⟩
    rw [descend_of_get? hr, descend_of_get? htable, descend_of_get? he]

end Lookup

/-- **Lookups, lists and the enumeration agree.** The entries are enumerated in increasing order,
no place twice. A lookup finds an entry exactly where it is enumerated, and fails exactly by naming
the first list that lacks what it asked for: that of the runtimes, that of the runtime's inference
types, or the protocols of the entries of that type. -/
theorem resolve_listed (c : Catalog) :
    c.entries.Pairwise Listed.Before ∧ (c.entries.map Listed.place).Nodup ∧
      (∀ runtime, (∃ types, c.inferenceTypes runtime = .ok types) ↔ runtime ∈ c.runtimeNames) ∧
      ∀ runtime inferenceType protocol,
        (∀ e, c.resolve runtime inferenceType protocol = .ok e ↔
          ⟨runtime, inferenceType, protocol, e⟩ ∈ c.entries) ∧
        ∀ f, c.resolve runtime inferenceType protocol = .error f ↔
          Missing c runtime inferenceType protocol f := by
  refine ⟨c.pairwise_entries, ?_, fun runtime => ?_, fun runtime inferenceType protocol =>
    ⟨fun e => resolve_eq_ok_iff e, fun f => ⟨missing_of_resolve, Missing.resolve⟩⟩⟩
  · rw [List.Nodup, List.pairwise_map]
    exact c.pairwise_entries.imp Listed.Before.place_ne
  · rw [runtimeNames, SortedMap.mem_keys_iff]
    constructor
    · rintro ⟨types, h⟩
      obtain ⟨r, hr, -⟩ := (inferenceTypes_eq_ok_iff c runtime types).1 h
      exact ⟨r, hr⟩
    · rintro ⟨r, hr⟩
      exact ⟨_, (inferenceTypes_eq_ok_iff c runtime _).2 ⟨r, hr, rfl⟩⟩

end Catalog

end ModelProbe
