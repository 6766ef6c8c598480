import ModelProbe.Catalog.Draft
import ModelProbe.Proofs.SortedMap
/-!
# Checked drafts

A draft becomes a catalog when every inference type has a protocol, every key names one, no two
keys of a type name the same one, and every entry has the fields that it needs. The catalog has
then what the draft has, entry by entry. Otherwise the first fault is told, by runtime, inference
type and key.

* `Checked`: what comes of a check whose faults stand at ordered places.
* `checked_traverse`: checks of the values of a map make a check of the map.
* `ofDraft_cases`: which drafts become catalogs, and which ones.
-/

namespace ModelProbe

/-! ## Entries -/

namespace EntryDraft

/-- The draft has every field that an entry needs. -/
def IsComplete (d : EntryDraft) : Prop :=
  d.endpoint.isSome ∧ d.header.isSome ∧ d.body.isSome ∧ d.fields.isSome

/-- The first field that an entry needs and the draft does not have. -/
def lacks? (d : EntryDraft) : Option String :=
  if d.endpoint.isNone then some "endpoint"
  else if d.header.isNone then some "header"
  else if d.body.isNone then some "body"
  else if d.fields.isNone then some "response_fields_map"
  else none

/-- The entry has what the draft has; blank options are none. -/
structure Gives (d : EntryDraft) (e : Entry) : Prop where
  endpoint : d.endpoint = some e.endpoint
  header : d.header = some e.header
  body : d.body = some e.body
  fields : d.fields = some e.fields
  args : e.args = d.args.filter fun a => !Text.isBlankText a.toList

/-- Nothing is lacking exactly in a draft that is complete. -/
theorem lacks?_eq_none_iff (d : EntryDraft) : d.lacks? = none ↔ d.IsComplete := by
  obtain ⟨endpoint, header, body, fields, args⟩ := d
  unfold lacks? IsComplete
  cases endpoint <;> cases header <;> cases body <;> cases fields <;> simp

/-- A draft gives one entry at most. -/
theorem Gives.unique {d : EntryDraft} {e e' : Entry} (h : d.Gives e) (h' : d.Gives e') :
    e = e' := by
  obtain ⟨endpoint, header, body, fields, args⟩ := e
  obtain ⟨endpoint', header', body', fields', args'⟩ := e'
  have hendpoint := Option.some.inj (h.endpoint.symm.trans h'.endpoint)
  have hheader := Option.some.inj (h.header.symm.trans h'.header)
  have hbody := Option.some.inj (h.body.symm.trans h'.body)
  have hfields := Option.some.inj (h.fields.symm.trans h'.fields)
  have hargs := h.args.trans h'.args.symm
  dsimp only at hendpoint hheader hbody hfields hargs
  rw [hendpoint, hheader, hbody, hfields, hargs]

/-- A draft gives its entry, or what it lacks first is told. -/
theorem complete_cases (location : String) (d : EntryDraft) :
    (∃ e, d.complete location = .ok e ∧ d.Gives e ∧ d.lacks? = none) ∨
      ∃ field, d.complete location = .error (.missingField location field) ∧
        d.lacks? = some field := by
  obtain ⟨endpoint, header, body, fields, args⟩ := d
  cases endpoint with
  | none => exact .inr ⟨_, rfl, rfl⟩
  | some endpoint =>
    cases header with
    | none => exact .inr ⟨_, rfl, rfl⟩
    | some header =>
      cases body with
      | none => exact .inr ⟨_, rfl, rfl⟩
      | some body =>
        cases fields with
        | none => exact .inr ⟨_, rfl, rfl⟩
        | some fields => exact .inl ⟨_, rfl, ⟨rfl, rfl, rfl, rfl, rfl⟩, rfl⟩

end EntryDraft

/-! ## Checks with ordered faults -/

/-- What comes of a check whose faults stand at ordered places: a complete result when there is no
fault at all, and else a fault before whose place there is none. -/
def Checked {ι β : Type} (before : ι → ι → Prop) (faulty : ι → CatalogFault → Prop)
    (complete : β → Prop) : Except CatalogFault β → Prop
  | .ok result => complete result ∧ ∀ place fault, ¬ faulty place fault
  | .error fault => ∃ place, faulty place fault ∧
      ∀ place' fault', faulty place' fault' → ¬ before place' place

/-- The key comes before another one. -/
def KeyBefore {κ : Type} [Ord κ] (a b : κ) : Prop := compare a b = .lt

/-- **Checking a map.** When the values of a map are checked by increasing key, the faults of the
map are those of its values, ordered by key first. -/
theorem checked_traverse {κ α β ι : Type} [Ord κ] [Std.TransOrd κ] [Std.LawfulEqOrd κ]
    {before : ι → ι → Prop} {faulty : κ → α → ι → CatalogFault → Prop}
    {complete : κ → α → β → Prop} {check : κ → α → Except CatalogFault β} {m : SortedMap κ α}
    (hcheck : ∀ k v, m.get? k = some v →
      Checked before (faulty k v) (complete k v) (check k v)) :
    Checked (Prod.Lex KeyBefore before)
      (fun place fault => ∃ v, m.get? place.1 = some v ∧ faulty place.1 v place.2 fault)
      (fun m' => m'.keys = m.keys ∧
        ∀ k v, m.get? k = some v → ∃ w, m'.get? k = some w ∧ complete k v w)
      (m.traverse check) := by
  -- A value whose check succeeds has no faults.
  have hsound : ∀ k v w, m.get? k = some v → check k v = .ok w →
      complete k v w ∧ ∀ place fault, ¬ faulty k v place fault := by
    intro k v w hv hw
    have h := hcheck k v hv
    rw [hw] at h
    exact h
  cases hrun : m.traverse check with
  | ok m' =>
    obtain ⟨hkeys, hvalues⟩ := SortedMap.traverse_eq_ok hrun
    refine ⟨⟨hkeys, fun k v hv => ?_⟩, ?_⟩
    · obtain ⟨w, hw, hget⟩ := hvalues k v hv
      exact ⟨w, hget, (hsound k v w hv hw).1⟩
    · rintro ⟨k, place⟩ fault ⟨v, hv, hfaulty⟩
      obtain ⟨w, hw, -⟩ := hvalues k v hv
      exact (hsound k v w hv hw).2 place fault hfaulty
  | error fault =>
    obtain ⟨k, v, hv, hfail, hearlier⟩ := SortedMap.traverse_eq_error hrun
    have h := hcheck k v hv
    rw [hfail] at h
    obtain ⟨place, hfaulty, hfirst⟩ := h
    refine ⟨(k, place), ⟨v, hv, hfaulty⟩, ?_⟩
    rintro ⟨k', place'⟩ fault' ⟨v', hv', hfaulty'⟩ hbefore
    rcases Prod.lex_def.1 hbefore with hlt | ⟨heq, hplace⟩
    · obtain ⟨w, hw⟩ := hearlier k' v' hv' hlt
      exact (hsound k' v' w hv' hw).2 place' fault' hfaulty'
    · obtain rfl : k' = k := heq
      obtain rfl := Option.some.inj (hv.symm.trans hv')
      exact hfirst place' fault' hfaulty' hplace

/-! ## The keys of one inference type -/

/-- A lesser key of the drafts names the protocol. -/
def NamedBefore (drafts : SortedMap String EntryDraft) (key : String) (protocol : Protocol) :
    Prop :=
  ∃ k draft, drafts.get? k = some draft ∧ KeyBefore k key ∧ Protocol.ofName? k = some protocol

/-- What is wrong with a key and its draft: it names no protocol, or one that a lesser key names,
or its draft lacks a field. -/
inductive KeyFault (location : String) (drafts : SortedMap String EntryDraft) :
    String → CatalogFault → Prop
  | unknown {key : String} {draft : EntryDraft} (hget : drafts.get? key = some draft)
      (unknown : Protocol.ofName? key = none) :
    KeyFault location drafts key (.unknownProtocol (location ++ "/" ++ key) key)
  | repeated {key : String} {draft : EntryDraft} {protocol : Protocol}
      (hget : drafts.get? key = some draft) (named : Protocol.ofName? key = some protocol)
      (before : NamedBefore drafts key protocol) :
    KeyFault location drafts key (.repeatedProtocol (location ++ "/" ++ key) protocol)
  | lacking {key field : String} {draft : EntryDraft} {protocol : Protocol}
      (hget : drafts.get? key = some draft) (named : Protocol.ofName? key = some protocol)
      (new : ¬ NamedBefore drafts key protocol) (lacks : draft.lacks? = some field) :
    KeyFault location drafts key (.missingField (location ++ "/" ++ key) field)

/-- Faults are those of keys that there are. -/
theorem KeyFault.exists_draft {location key : String} {drafts : SortedMap String EntryDraft}
    {fault : CatalogFault} (h : KeyFault location drafts key fault) :
    ∃ draft, drafts.get? key = some draft := by
  cases h with
  | unknown hget _ => exact ⟨_, hget⟩
  | repeated hget _ _ => exact ⟨_, hget⟩
  | lacking hget _ _ _ => exact ⟨_, hget⟩

/-- A key that names a new protocol, with a complete draft, has no fault. -/
theorem not_keyFault {location key : String} {drafts : SortedMap String EntryDraft}
    {draft : EntryDraft} {protocol : Protocol} (hget : drafts.get? key = some draft)
    (hnamed : Protocol.ofName? key = some protocol) (hnew : ¬ NamedBefore drafts key protocol)
    (hlacks : draft.lacks? = none) (fault : CatalogFault) :
    ¬ KeyFault location drafts key fault := by
  intro h
  cases h with
  | unknown _ hunknown =>
    rw [hnamed] at hunknown
    cases hunknown
  | repeated _ hnamed' hbefore =>
    obtain rfl := Option.some.inj (hnamed.symm.trans hnamed')
    exact hnew hbefore
  | lacking hget' _ _ hlacks' =>
    obtain rfl := Option.some.inj (hget.symm.trans hget')
    rw [hlacks] at hlacks'
    cases hlacks'

/-- A key of the drafts without faults names a new protocol, and its draft gives an entry. -/
theorem gives_of_not_keyFault {location key : String} {drafts : SortedMap String EntryDraft}
    {draft : EntryDraft} (hget : drafts.get? key = some draft)
    (h : ∀ fault, ¬ KeyFault location drafts key fault) :
    ∃ protocol e, Protocol.ofName? key = some protocol ∧ ¬ NamedBefore drafts key protocol ∧
      draft.Gives e := by
  cases hnamed : Protocol.ofName? key with
  | none => exact absurd (.unknown hget hnamed) (h _)
  | some protocol =>
    have hnew : ¬ NamedBefore drafts key protocol := fun hbefore =>
      h _ (.repeated hget hnamed hbefore)
    rcases draft.complete_cases location with ⟨e, -, hgives, -⟩ | ⟨field, -, hlacks⟩
    · exact ⟨protocol, e, rfl, hnew, hgives⟩
    · exact absurd (.lacking hget hnamed hnew hlacks) (h _)

/-- The table has exactly one entry for each of the drafts, under the protocol that its key
names. -/
structure Filled (drafts : List (String × EntryDraft)) (table : ProtocolTable) : Prop where
  size : table.size = drafts.length
  get?_iff : ∀ protocol e, table.get? protocol = some e ↔ ∃ key draft, (key, draft) ∈ drafts ∧
    Protocol.ofName? key = some protocol ∧ draft.Gives e

/-- A table stays filled when a draft with a new protocol is added. -/
theorem Filled.insert {drafts : List (String × EntryDraft)} {table : ProtocolTable}
    (h : Filled drafts table) {key : String} {draft : EntryDraft} {protocol : Protocol} {e : Entry}
    (hnamed : Protocol.ofName? key = some protocol) (hnew : table.get? protocol = none)
    (hgives : draft.Gives e) : Filled (drafts ++ [(key, draft)]) (table.insert protocol e) where
  size := by rw [SortedMap.size_insert hnew, h.size, List.length_append, List.length_singleton]
  get?_iff := by
    intro protocol' e'
    rw [SortedMap.get?_insert]
    by_cases hcompare : compare protocol' protocol = .eq
    · obtain rfl := Std.LawfulEqCmp.eq_of_compare hcompare
      rw [if_pos hcompare]
      constructor
      · intro he
        obtain rfl := Option.some.inj he
        exact ⟨key, draft, by simp, hnamed, hgives⟩
      · rintro ⟨key', draft', hmem, hnamed', hgives'⟩
        rcases List.mem_append.1 hmem with hmem | hmem
        · -- The protocol is new, so that no earlier draft has it.
          rw [(h.get?_iff _ e').2 ⟨key', draft', hmem, hnamed', hgives'⟩] at hnew
          cases hnew
        · obtain ⟨-, rfl⟩ := Prod.mk.inj (List.mem_singleton.1 hmem)
          rw [hgives.unique hgives']
    · rw [if_neg hcompare, h.get?_iff]
      constructor
      · rintro ⟨key', draft', hmem, hrest⟩
        exact ⟨key', draft', List.mem_append_left _ hmem, hrest⟩
      · rintro ⟨key', draft', hmem, hnamed', hgives'⟩
        rcases List.mem_append.1 hmem with hmem | hmem
        · exact ⟨key', draft', hmem, hnamed', hgives'⟩
        · obtain ⟨rfl, -⟩ := Prod.mk.inj (List.mem_singleton.1 hmem)
          obtain rfl := Option.some.inj (hnamed.symm.trans hnamed')
          exact absurd Std.ReflCmp.compare_self hcompare

/-- **Checking the keys of a type.** After the drafts that are seen, the other ones are checked one
after another, so that the first fault is the one with the least key. -/
theorem checked_addDrafts (location : String) (drafts : SortedMap String EntryDraft)
    {rest : List (String × EntryDraft)} :
    ∀ {seen : List (String × EntryDraft)} {table : ProtocolTable},
      drafts.toList = seen ++ rest → Filled seen table →
      (∀ a ∈ seen, ∀ fault, ¬ KeyFault location drafts a.1 fault) →
      Checked KeyBefore (KeyFault location drafts) (Filled drafts.toList)
        (table.addDrafts location rest) := by
  induction rest with
  | nil =>
    intro seen table hlist hfilled hseen
    rw [List.append_nil] at hlist
    refine ⟨hlist ▸ hfilled, fun key fault hfault => ?_⟩
    obtain ⟨draft, hget⟩ := hfault.exists_draft
    have hmem := (SortedMap.mem_toList_iff drafts key draft).2 hget
    rw [hlist] at hmem
    exact hseen _ hmem fault hfault
  | cons a rest ih =>
    intro seen table hlist hfilled hseen
    obtain ⟨key, draft⟩ := a
    have hget : drafts.get? key = some draft :=
      (SortedMap.mem_toList_iff drafts key draft).1 (by rw [hlist]; simp)
    -- All lesser keys have been seen, and they have no faults.
    have hfirst : ∀ key' fault', KeyFault location drafts key' fault' → ¬ KeyBefore key' key := by
      intro key' fault' hfault' hbefore
      obtain ⟨draft', hget'⟩ := hfault'.exists_draft
      exact hseen _ ((SortedMap.mem_before_iff hlist key' draft').2 ⟨hget', hbefore⟩) fault' hfault'
    have hnamedBefore : ∀ protocol, NamedBefore drafts key protocol ↔
        ∃ e, table.get? protocol = some e := by
      intro protocol
      constructor
      · rintro ⟨key', draft', hget', hbefore, hnamed'⟩
        have hmem := (SortedMap.mem_before_iff hlist key' draft').2 ⟨hget', hbefore⟩
        obtain ⟨protocol', e, hnamed, -, hgives⟩ := gives_of_not_keyFault hget' (hseen _ hmem)
        obtain rfl := Option.some.inj (hnamed.symm.trans hnamed')
        exact ⟨e, (hfilled.get?_iff _ e).2 ⟨key', draft', hmem, hnamed, hgives⟩⟩
      · rintro ⟨e, he⟩
        obtain ⟨key', draft', hmem, hnamed', -⟩ := (hfilled.get?_iff protocol e).1 he
        obtain ⟨hget', hbefore⟩ := (SortedMap.mem_before_iff hlist key' draft').1 hmem
        exact ⟨key', draft', hget', hbefore, hnamed'⟩
    rw [ProtocolTable.addDrafts]
    cases hnamed : Protocol.ofName? key with
    | none => exact ⟨key, .unknown hget hnamed, hfirst⟩
    | some protocol =>
      dsimp only
      unfold SortedMap.contains
      cases hold : table.get? protocol with
      | some e =>
        rw [if_pos Option.isSome_some]
        exact ⟨key, .repeated hget hnamed ((hnamedBefore protocol).2 ⟨e, hold⟩), hfirst⟩
      | none =>
        rw [if_neg (by simp)]
        have hnew : ¬ NamedBefore drafts key protocol := by
          intro hbefore
          obtain ⟨e, he⟩ := (hnamedBefore protocol).1 hbefore
          rw [hold] at he
          cases he
        rcases draft.complete_cases (location ++ "/" ++ key) with
          ⟨e, hcomplete, hgives, hlacks⟩ | ⟨field, hcomplete, hlacks⟩
        · rw [hcomplete]
          refine ih (by rw [hlist]; simp) (hfilled.insert hnamed hold hgives) fun b hb => ?_
          rcases List.mem_append.1 hb with hb | hb
          · exact hseen b hb
          · obtain rfl := List.mem_singleton.1 hb
            exact not_keyFault hget hnamed hnew hlacks
        · rw [hcomplete]
          exact ⟨key, .lacking hget hnamed hnew hlacks, hfirst⟩

/-! ## Inference types -/

/-- What is wrong with an inference type: it has no protocols, or one of its keys has a fault. -/
inductive TypeFault (runtime inferenceType : String) (drafts : SortedMap String EntryDraft) :
    Option String → CatalogFault → Prop
  | noProtocols (hempty : drafts.keys = []) :
    TypeFault runtime inferenceType drafts none (.noProtocols runtime inferenceType)
  | key {key : String} {fault : CatalogFault}
      (hfault : KeyFault (runtime ++ "/" ++ inferenceType) drafts key fault) :
    TypeFault runtime inferenceType drafts (some key) fault

/-- **Checking an inference type.** -/
theorem checked_ofDrafts (runtime inferenceType : String) (drafts : SortedMap String EntryDraft) :
    Checked KeyBefore (TypeFault runtime inferenceType drafts) (Filled drafts.toList)
      (ProtocolTable.ofDrafts runtime inferenceType drafts) := by
  have hempty : drafts.isEmpty = true ↔ drafts.keys = [] := by
    rw [SortedMap.isEmpty, List.isEmpty_iff, SortedMap.keys, List.map_eq_nil_iff]
  unfold ProtocolTable.ofDrafts
  by_cases hno : drafts.keys = []
  · rw [if_pos (hempty.2 hno)]
    refine ⟨none, .noProtocols hno, fun place fault hfault hbefore => ?_⟩
    -- Nothing comes before the place of a type without keys.
    cases place <;> cases hbefore
  · rw [if_neg (mt hempty.1 hno)]
    have hkeys : Checked KeyBefore (KeyFault (runtime ++ "/" ++ inferenceType) drafts)
        (Filled drafts.toList)
        (ProtocolTable.addDrafts (runtime ++ "/" ++ inferenceType) .empty drafts.toList) :=
      checked_addDrafts _ drafts (List.nil_append _).symm ⟨rfl, by simp⟩ (by simp)
    cases hrun : ProtocolTable.addDrafts (runtime ++ "/" ++ inferenceType) .empty drafts.toList with
    | ok table =>
      rw [hrun] at hkeys
      refine ⟨hkeys.1, fun place fault hfault => ?_⟩
      cases hfault with
      | noProtocols h => exact hno h
      | key hfault => exact hkeys.2 _ _ hfault
    | error fault =>
      rw [hrun] at hkeys
      obtain ⟨key, hfault, hfirst⟩ := hkeys
      refine ⟨some key, .key hfault, fun place' fault' hfault' hbefore => ?_⟩
      cases hfault' with
      | noProtocols h => exact hno h
      | key hfault' => exact hfirst _ _ hfault' hbefore

/-- The keys of an inference type are clear: there are some, each names a protocol of its own, and
each has a complete draft. -/
structure ClearKeys (drafts : SortedMap String EntryDraft) : Prop where
  some_key : drafts.keys ≠ []
  named : ∀ key ∈ drafts.keys, ∃ protocol, Protocol.ofName? key = some protocol
  distinct : ∀ key ∈ drafts.keys, ∀ key' ∈ drafts.keys,
    Protocol.ofName? key = Protocol.ofName? key' → key = key'
  complete : ∀ key draft, drafts.get? key = some draft → draft.IsComplete

/-- Clear keys are those without faults. -/
theorem clearKeys_iff (runtime inferenceType : String) (drafts : SortedMap String EntryDraft) :
    ClearKeys drafts ↔ ∀ place fault, ¬ TypeFault runtime inferenceType drafts place fault := by
  constructor
  · intro h place fault hfault
    cases hfault with
    | noProtocols hempty => exact h.some_key hempty
    | key hfault =>
      cases hfault with
      | unknown hget hunknown =>
        obtain ⟨protocol, hnamed⟩ := h.named _ ((SortedMap.mem_keys_iff drafts _).2 ⟨_, hget⟩)
        rw [hunknown] at hnamed
        cases hnamed
      | repeated hget hnamed hbefore =>
        obtain ⟨key', draft', hget', hlt, hnamed'⟩ := hbefore
        obtain rfl := h.distinct _ ((SortedMap.mem_keys_iff drafts _).2 ⟨_, hget⟩) _
          ((SortedMap.mem_keys_iff drafts _).2 ⟨_, hget'⟩) (hnamed.trans hnamed'.symm)
        exact absurd (hlt.symm.trans Std.ReflCmp.compare_self) (by decide)
      | lacking hget _ _ hlacks =>
        rw [(EntryDraft.lacks?_eq_none_iff _).2 (h.complete _ _ hget)] at hlacks
        cases hlacks
  · intro h
    have hgives : ∀ key draft, drafts.get? key = some draft → ∃ protocol e,
        Protocol.ofName? key = some protocol ∧ ¬ NamedBefore drafts key protocol ∧
          draft.Gives e := fun key draft hget =>
      gives_of_not_keyFault hget fun fault hfault => h _ _ (.key hfault)
    refine ⟨fun hempty => h _ _ (.noProtocols hempty), fun key hkey => ?_, ?_, ?_⟩
    · obtain ⟨draft, hget⟩ := (SortedMap.mem_keys_iff drafts key).1 hkey
      obtain ⟨protocol, -, hnamed, -⟩ := hgives key draft hget
      exact ⟨protocol, hnamed⟩
    · -- Of two keys that name one protocol, the greater one would have a fault.
      intro key hkey key' hkey' hsame
      obtain ⟨draft, hget⟩ := (SortedMap.mem_keys_iff drafts key).1 hkey
      obtain ⟨draft', hget'⟩ := (SortedMap.mem_keys_iff drafts key').1 hkey'
      obtain ⟨protocol, -, hnamed, hnew, -⟩ := hgives key draft hget
      obtain ⟨protocol', -, hnamed', hnew', -⟩ := hgives key' draft' hget'
      obtain rfl : protocol = protocol' :=
        Option.some.inj (hnamed.symm.trans (hsame.trans hnamed'))
      cases hcompare : compare key key' with
      | lt => exact absurd ⟨key, draft, hget, hcompare, hnamed⟩ hnew'
      | eq => exact Std.LawfulEqCmp.eq_of_compare hcompare
      | gt =>
        exact absurd ⟨key', draft', hget', Std.OrientedCmp.lt_of_gt hcompare, hnamed'⟩ hnew
    · intro key draft hget
      obtain ⟨-, e, -, -, hdraft⟩ := hgives key draft hget
      exact ⟨by simp [hdraft.endpoint], by simp [hdraft.header], by simp [hdraft.body],
        by simp [hdraft.fields]⟩

/-! ## Runtimes -/

/-- What is wrong with a runtime's draft is what is wrong with one of its inference types. -/
def RuntimeFault (runtime : String) (d : RuntimeDraft) (place : String × Option String)
    (fault : CatalogFault) : Prop :=
  ∃ drafts, d.inferenceTypes.get? place.1 = some drafts ∧
    TypeFault runtime place.1 drafts place.2 fault

/-- The runtime has what its draft has: the containers, the default query, and for each inference
type a table with exactly one entry for each key. -/
structure RuntimeDraft.CompletedBy (d : RuntimeDraft) (r : ServingRuntime) : Prop where
  containers : r.containers = d.containers
  defaultQuery : r.defaultQuery = d.defaultQuery
  types : r.inferenceTypes.keys = d.inferenceTypes.keys
  tables : ∀ inferenceType drafts, d.inferenceTypes.get? inferenceType = some drafts →
    ∃ table, r.inferenceTypes.get? inferenceType = some table ∧ Filled drafts.toList table

/-- **Checking a runtime.** -/
theorem checked_ofDraft (runtime : String) (d : RuntimeDraft) :
    Checked (Prod.Lex KeyBefore KeyBefore) (RuntimeFault runtime d) d.CompletedBy
      (ServingRuntime.ofDraft runtime d) := by
  have htypes := checked_traverse (m := d.inferenceTypes)
    fun inferenceType drafts _ => checked_ofDrafts runtime inferenceType drafts
  unfold ServingRuntime.ofDraft
  cases hrun : d.inferenceTypes.traverse (ProtocolTable.ofDrafts runtime) with
  | error fault =>
    rw [hrun] at htypes
    exact htypes
  | ok types =>
    rw [hrun] at htypes
    exact ⟨⟨rfl, rfl, htypes.1.1, htypes.1.2⟩, htypes.2⟩

/-! ## Catalogs -/

/-- A place in a draft: a runtime, an inference type, and a key unless the type has none. -/
abbrev DraftPlace := String × String × Option String

namespace CatalogDraft

/-- The place as it is told. -/
def placeText : DraftPlace → String
  | (runtime, inferenceType, none) => runtime ++ "/" ++ inferenceType
  | (runtime, inferenceType, some key) => runtime ++ "/" ++ inferenceType ++ "/" ++ key

/-- One place comes before another: by runtime, then by inference type, then by key. -/
def PlaceBefore : DraftPlace → DraftPlace → Prop :=
  Prod.Lex KeyBefore (Prod.Lex KeyBefore KeyBefore)

/-- What is wrong with a draft is what is wrong with one of its runtimes. -/
def Faulty (d : CatalogDraft) (place : DraftPlace) (fault : CatalogFault) : Prop :=
  ∃ runtime, d.get? place.1 = some runtime ∧ RuntimeFault place.1 runtime place.2 fault

/-- The draft is clear: so are the keys of each inference type of each runtime. -/
def IsClear (d : CatalogDraft) : Prop :=
  ∀ name runtime, d.get? name = some runtime →
    ∀ inferenceType drafts, runtime.inferenceTypes.get? inferenceType = some drafts →
      ClearKeys drafts

/-- The catalog has what its draft has, runtime by runtime. -/
structure CompletedBy (d : CatalogDraft) (c : Catalog) : Prop where
  runtimes : c.runtimes.keys = d.keys
  runtime : ∀ name draft, d.get? name = some draft →
    ∃ r, c.runtimes.get? name = some r ∧ draft.CompletedBy r

/-- A draft is clear exactly when it has no faults. -/
theorem isClear_iff (d : CatalogDraft) : IsClear d ↔ ∀ place fault, ¬ Faulty d place fault := by
  constructor
  · rintro h ⟨name, inferenceType, key⟩ fault ⟨runtime, hruntime, drafts, hdrafts, hfault⟩
    exact (clearKeys_iff name inferenceType drafts).1 (h _ _ hruntime _ _ hdrafts) key fault hfault
  · intro h name runtime hruntime inferenceType drafts hdrafts
    refine (clearKeys_iff name inferenceType drafts).2 fun key fault hfault => ?_
    exact h (name, inferenceType, key) fault ⟨runtime, hruntime, drafts, hdrafts, hfault⟩

/-- A fault is told with its place. -/
theorem message_of_faulty {d : CatalogDraft} {place : DraftPlace} {fault : CatalogFault}
    (h : Faulty d place fault) :
    ∃ what, fault.message = placeText place ++ ": " ++ what := by
  obtain ⟨name, inferenceType, key⟩ := place
  obtain ⟨runtime, -, drafts, -, hfault⟩ := h
  cases hfault with
  | noProtocols _ =>
    have hsplit : ": no protocols defined" = ": " ++ "no protocols defined" := by decide
    exact ⟨"no protocols defined", by
      simp only [CatalogFault.message, placeText, hsplit, String.append_assoc]⟩
  | key hfault =>
    cases hfault with
    | unknown _ _ => exact ⟨_, rfl⟩
    | @repeated _ protocol _ _ _ =>
      exact ⟨protocol.name ++ " is defined more than once", by
        simp only [CatalogFault.message, placeText, String.append_assoc]⟩
    | @lacking field _ _ _ _ _ _ =>
      have hsplit : ": missing `" = ": " ++ "missing `" := by decide
      exact ⟨"missing `" ++ (field ++ "`"), by
        simp only [CatalogFault.message, placeText, hsplit, String.append_assoc]⟩

/-- **Checking a catalog.** -/
theorem checked_runtimes (d : CatalogDraft) :
    Checked PlaceBefore (Faulty d) (fun runtimes => CompletedBy d ⟨runtimes⟩)
      (SortedMap.traverse ServingRuntime.ofDraft d) := by
  have hruntimes := checked_traverse (m := d) fun name draft _ => checked_ofDraft name draft
  cases hrun : SortedMap.traverse ServingRuntime.ofDraft d with
  | error fault =>
    rw [hrun] at hruntimes
    exact hruntimes
  | ok runtimes =>
    rw [hrun] at hruntimes
    exact ⟨⟨hruntimes.1.1, hruntimes.1.2⟩, hruntimes.2⟩

/-- A clear draft becomes a catalog that has what the draft has. -/
theorem IsClear.exists_completedBy {d : CatalogDraft} (h : IsClear d) :
    ∃ c, Catalog.ofDraft d = .ok c ∧ CompletedBy d c := by
  have hchecked := checked_runtimes d
  unfold Catalog.ofDraft
  cases hrun : SortedMap.traverse ServingRuntime.ofDraft d with
  | ok runtimes =>
    rw [hrun] at hchecked
    exact ⟨_, rfl, hchecked.1⟩
  | error fault =>
    rw [hrun] at hchecked
    obtain ⟨place, hfault, -⟩ := hchecked
    exact absurd hfault ((isClear_iff d).1 h place fault)

/-- A catalog has what the draft has of which it was made, which is clear. -/
theorem completedBy_of_ofDraft {d : CatalogDraft} {c : Catalog} (h : Catalog.ofDraft d = .ok c) :
    IsClear d ∧ CompletedBy d c := by
  have hchecked := checked_runtimes d
  unfold Catalog.ofDraft at h
  cases hrun : SortedMap.traverse ServingRuntime.ofDraft d with
  | ok runtimes =>
    rw [hrun] at hchecked h
    obtain rfl := Except.ok.inj h
    exact ⟨(isClear_iff d).2 hchecked.2, hchecked.1⟩
  | error fault =>
    rw [hrun] at h
    cases h

/-- **Checking a draft.** A draft becomes a catalog exactly when it is clear. The catalog has then
what the draft has, nothing more and nothing less. Otherwise the draft is refused for its first
fault, which is told with its place. -/
theorem ofDraft_cases (d : CatalogDraft) :
    ((∃ c, Catalog.ofDraft d = .ok c) ↔ IsClear d) ∧
      (∀ c, Catalog.ofDraft d = .ok c → CompletedBy d c) ∧
      ∀ f, Catalog.ofDraft d = .error f → ∃ place fault, f = .invalidCatalog fault ∧
        Faulty d place fault ∧ (∀ place' fault', Faulty d place' fault' →
          ¬ PlaceBefore place' place) ∧
        ∃ what, fault.message = placeText place ++ ": " ++ what := by
  refine ⟨⟨fun ⟨c, hc⟩ => (completedBy_of_ofDraft hc).1, fun hclear => ?_⟩,
    fun c hc => (completedBy_of_ofDraft hc).2, fun f hf => ?_⟩
  · obtain ⟨c, hc, -⟩ := hclear.exists_completedBy
    exact ⟨c, hc⟩
  · have hchecked := checked_runtimes d
    unfold Catalog.ofDraft at hf
    cases hrun : SortedMap.traverse ServingRuntime.ofDraft d with
    | ok runtimes =>
      rw [hrun] at hf
      cases hf
    | error fault =>
      rw [hrun] at hchecked hf
      obtain rfl := Except.error.inj hf
      obtain ⟨place, hfault, hfirst⟩ := hchecked
      exact ⟨place, fault, rfl, hfault, hfirst, message_of_faulty hfault⟩

end CatalogDraft

end ModelProbe
