import Mathlib
import ModelProbe.Proofs.Answer.Text
import ModelProbe.Proofs.Json.Ordered
import ModelProbe.Proofs.Json.Row
/-!
# Where the text of an answer comes from

The table of an answer holds what the heads stand for, the members of the payload and the whole
output under names of one kind. So a text that is looked for in the payload may be found elsewhere:
under the name of a header or of a version, under `output`, or in a string that stands there.

* `exists_origin`: every text that is found comes from one of these places.
* `text_from_payload`: when a text comes from the payload, and what it is when it does not.
-/

namespace ModelProbe.Answer

/-! ## The parts of an output -/

/-- What the lines of an output's heads stand for. -/
def headEntries (raw : String) : List (String × Json) :=
  (readHeads (Text.trimStart raw.toList)).1

/-- What stands behind an output's heads. -/
def payload (raw : String) : List Char := (readHeads (Text.trimStart raw.toList)).2

/-- The names under which the heads leave something. -/
def headNames (raw : String) : List String := (headEntries raw).map Prod.fst

/-- What the heads leave under a name. -/
def headValue? (raw name : String) : Option Json := (headEntries raw).reverse.lookup name

/-- The payload is one object, with these members. -/
def PayloadObject (raw : String) (members : List (String × Json)) : Prop :=
  Json.ofChars? (Text.trim (payload raw)) = some (.object members)

/-- The payload is one object, with a member of this name. -/
def HasOwn (raw name : String) : Prop :=
  ∃ members v, PayloadObject raw members ∧ SortedMap.lookup name members = some v

/-- A text is that of a value under the field, somewhere inside a document of the payload. -/
def FromPayload (raw field t : String) : Prop :=
  ∃ document v, Json.InRow document (payload raw) ∧ Json.Under field v document ∧ t = textOf v

/-! ### Heads -/

/-- The lines of a head stand for strings. -/
theorem isString_of_mem_readHead {head : List Char} {e : String × Json} (he : e ∈ readHead head) :
    ∃ s, e.2 = .string s := by
  unfold readHead at he
  split at he
  · cases he
  · next status lines _ =>
    rcases List.mem_cons.1 he with rfl | he
    · unfold readStatusLine
      split <;> exact ⟨_, rfl⟩
    · obtain ⟨line, -, hline⟩ := List.mem_filterMap.1 he
      obtain ⟨parts, -, rfl⟩ := Option.map_eq_some_iff.1 hline
      exact ⟨_, rfl⟩

/-- The lines of all heads stand for strings. -/
theorem isString_of_mem_readHeads (s : List Char) :
    ∀ e ∈ (readHeads s).1, ∃ text, e.2 = .string text := by
  fun_induction readHeads s with
  | case1 rest split entries payload hread ih =>
    rw [hread] at ih
    intro e he
    rcases List.mem_append.1 he with he | he
    · exact isString_of_mem_readHead he
    · exact ih e he
  | case2 => exact fun e he => absurd he (by simp)

/-- What the heads leave under a name is a string. -/
theorem isString_of_headValue? {raw name : String} {v : Json} (h : headValue? raw name = some v) :
    ∃ s, v = .string s :=
  isString_of_mem_readHeads _ _ (List.mem_reverse.1 (SortedMap.mem_of_lookup_eq_some h))

/-- The heads leave something exactly under their names. -/
theorem headValue?_isSome_iff {raw name : String} :
    (∃ s, headValue? raw name = some (.string s)) ↔ name ∈ headNames raw := by
  constructor
  · rintro ⟨s, hs⟩
    exact List.mem_map_of_mem (List.mem_reverse.1 (SortedMap.mem_of_lookup_eq_some hs))
  · intro h
    cases hvalue : headValue? raw name with
    | some v =>
      obtain ⟨s, rfl⟩ := isString_of_headValue? hvalue
      exact ⟨s, rfl⟩
    | none =>
      obtain ⟨e, he, rfl⟩ := List.mem_map.1 h
      have hne := List.lookup_eq_none_iff.1 hvalue e (List.mem_reverse.2 he)
      simp at hne

/-! ### Payloads -/

/-- Behind the heads no blanks are left. -/
theorem trimStart_readHeads (s : List Char) (hs : Text.trimStart s = s) :
    Text.trimStart (readHeads s).2 = (readHeads s).2 := by
  fun_induction readHeads s with
  | case1 rest split entries payload hread ih =>
    rw [hread] at ih
    exact ih (List.dropWhile_idempotent _ _)
  | case2 => exact hs

/-- A payload that is one object is a document of its own. -/
theorem PayloadObject.inRow {raw : String} {members : List (String × Json)}
    (h : PayloadObject raw members) : Json.InRow (.object members) (payload raw) := by
  have hfront : Text.trimStart (payload raw) = payload raw :=
    trimStart_readHeads _ (List.dropWhile_idempotent _ _)
  obtain ⟨w, -, hw⟩ := Text.exists_trimEnd_append (payload raw)
  rw [PayloadObject, Text.trim, hfront] at h
  rw [hw]
  exact .here h (.inl rfl)

/-- The documents that an output begins with are those that its payload begins with. -/
theorem inRow_payload {raw : String} {document : Json}
    (h : document ∈ Json.rowOfChars raw.toList) : Json.InRow document (payload raw) := by
  have hrow := Json.rowOfChars_trimStart (List.ne_nil_of_mem h)
  rw [← hrow] at h
  have hmark : ¬ headMark <+: Text.trimStart raw.toList := by
    intro hmark
    rw [rowOfChars_of_mark hmark] at h
    cases h
  rw [payload, readHeads_of_not_mark hmark]
  exact Json.mem_rowOfChars_iff.1 h

/-! ## The table -/

/-- Where the payload is one object, the table has its members and, under other names, what the
heads leave. -/
theorem get?_of_object {raw : String} {members : List (String × Json)}
    (h : PayloadObject raw members) (name : String) :
    (ofText raw).get? name =
      (SortedMap.lookup name members).or (headValue? raw name) := by
  obtain ⟨m, rfl⟩ := Json.exists_map_of_ofChars?_object h
  have htable : ofText raw = ⟨raw, SortedMap.ofList (headEntries raw ++ m.toList)⟩ := by
    unfold PayloadObject payload at h
    rw [ofText]
    dsimp only
    rw [h, SortedMap.ofList_append]
    rfl
  rw [htable, get?, SortedMap.get?_ofList, List.reverse_append, List.lookup_append,
    SortedMap.lookup_reverse_toList]
  rfl

/-- Where the payload is not one object, the table has the whole output under `output` and, under
other names, what the heads leave. -/
theorem get?_of_other {raw : String} (h : ∀ members, ¬ PayloadObject raw members) (name : String) :
    (ofText raw).get? name =
      if name = outputKey then some (.string raw) else headValue? raw name := by
  have htable : ofText raw =
      ⟨raw, (SortedMap.ofList (headEntries raw)).insert outputKey (.string raw)⟩ := by
    rw [ofText]
    dsimp only
    split
    · next members hmembers => exact absurd hmembers (h members)
    · rfl
  rw [htable, get?, SortedMap.get?_insert, SortedMap.get?_ofList]
  by_cases hname : name = outputKey <;> simp [hname, headValue?]

/-- What stands inside a table stands under a name of the table, or inside a value of it. -/
theorem under_table {a : Answer} {key : String} {v : Json}
    (h : Json.Under key v (.object a.table.toList)) :
    a.get? key = some v ∨ ∃ name w, a.get? name = some w ∧ Json.Under key v w := by
  rcases Json.under_object_iff.1 h with hown | ⟨⟨name, w⟩, hmem, hinside⟩
  · exact .inl hown
  · exact .inr ⟨name, w, (SortedMap.mem_toList_iff a.table name w).1 hmem, hinside⟩

/-- What stands inside the table of an object stands inside the object, or heads left it under its
name. -/
theorem under_table_of_object {raw key : String} {members : List (String × Json)} {v : Json}
    (hobject : PayloadObject raw members)
    (h : Json.Under key v (.object (ofText raw).table.toList)) :
    Json.Under key v (.object members) ∨
      SortedMap.lookup key members = none ∧ headValue? raw key = some v := by
  rcases under_table h with hown | ⟨name, w, hname, hinside⟩
  · rw [get?_of_object hobject] at hown
    cases hmember : SortedMap.lookup key members with
    | some u =>
      rw [hmember] at hown
      obtain rfl := Option.some.inj hown
      exact .inl (.member hmember)
    | none =>
      rw [hmember, Option.none_or] at hown
      exact .inr ⟨rfl, hown⟩
  · left
    rw [get?_of_object hobject] at hname
    cases hmember : SortedMap.lookup name members with
    | some u =>
      rw [hmember] at hname
      obtain rfl := Option.some.inj hname
      exact .inMember (SortedMap.mem_of_lookup hmember) hinside
    | none =>
      -- Heads left this value, so it is a string and nothing stands inside it.
      rw [hmember, Option.none_or] at hname
      obtain ⟨s, rfl⟩ := isString_of_headValue? hname
      exact absurd hinside (Json.not_under_of_plain rfl)

/-- What stands inside the table of another payload is the whole output, or heads left it. -/
theorem under_table_of_other {raw key : String} {v : Json}
    (hother : ∀ members, ¬ PayloadObject raw members)
    (h : Json.Under key v (.object (ofText raw).table.toList)) :
    (key = outputKey ∧ v = .string raw) ∨ headValue? raw key = some v := by
  rcases under_table h with hown | ⟨name, w, hname, hinside⟩
  · rw [get?_of_other hother] at hown
    by_cases hkey : key = outputKey
    · rw [if_pos hkey] at hown
      exact .inl ⟨hkey, (Option.some.inj hown).symm⟩
    · rw [if_neg hkey] at hown
      exact .inr hown
  · -- All values of the table are strings, and nothing stands inside a string.
    exfalso
    rw [get?_of_other hother] at hname
    by_cases hkey : name = outputKey
    · rw [if_pos hkey] at hname
      obtain rfl := Option.some.inj hname
      exact Json.not_under_of_plain rfl hinside
    · rw [if_neg hkey] at hname
      obtain ⟨s, rfl⟩ := isString_of_headValue? hname
      exact Json.not_under_of_plain rfl hinside

/-! ## The origin of a text -/

/-- Where a value comes from that is found for a field. -/
inductive Origin (raw : String) (container : Option String) (field : String) : Json → Prop
  /-- It stands under the field, somewhere inside a document of the payload. -/
  | payload {document v : Json} (hdocument : Json.InRow document (payload raw))
      (hv : Json.Under field v document) : Origin raw container field v
  /-- Heads left it under the field, and the payload has no member of this name. -/
  | head {s : String} (hcontainer : container = none)
      (hs : headValue? raw field = some (.string s)) (hown : ¬ HasOwn raw field) :
      Origin raw container field (.string s)
  /-- It is the whole output, since the payload is not one object. -/
  | whole (hcontainer : container = none) (hfield : field = outputKey)
      (hother : ∀ members, ¬ PayloadObject raw members) :
      Origin raw container field (.string raw)
  /-- It stands under the field in a document that is written in the string under `output`, where
  the payload is one object. -/
  | embedded {members : List (String × Json)} {s : String} {document v : Json}
      (hpayload : PayloadObject raw members)
      (hs : (ofText raw).get? outputKey = some (.string s))
      (hdocument : Json.InRow document s.toList) (hv : Json.Under field v document) :
      Origin raw container field v

/-- What is found in a value is the text of a value under the field, inside the container when one
is given. -/
theorem exists_of_fieldText? {container : Option String} {field t : String} {root : Json}
    (h : fieldText? container field root = some t) :
    ∃ v, t = textOf v ∧ (container = none ∧ Json.Under field v root ∨
      ∃ key scope, Json.Under key scope root ∧ Json.Under field v scope) := by
  cases container with
  | none =>
    obtain ⟨v, hv, rfl⟩ := Option.map_eq_some_iff.1 h
    exact ⟨v, rfl, .inl ⟨rfl, Json.under_of_locate? hv⟩⟩
  | some key =>
    obtain ⟨scope, hscope, h⟩ := Option.bind_eq_some_iff.1 h
    obtain ⟨v, hv, rfl⟩ := Option.map_eq_some_iff.1 h
    exact ⟨v, rfl, .inr ⟨key, scope, Json.under_of_locate? hscope, Json.under_of_locate? hv⟩⟩

/-- What is found in a value stands under the field there. -/
theorem under_of_fieldText? {container : Option String} {field t : String} {root : Json}
    (h : fieldText? container field root = some t) :
    ∃ v, t = textOf v ∧ Json.Under field v root := by
  obtain ⟨v, ht, ⟨-, hv⟩ | ⟨key, scope, hscope, hv⟩⟩ := exists_of_fieldText? h
  · exact ⟨v, ht, hv⟩
  · exact ⟨v, ht, hv.trans hscope⟩

/-- What is found for a field is found in the table, or in a document that stands under `output`. -/
theorem findSome?_roots_eq_some {a : Answer} {f : Json → Option String} {t : String}
    (h : a.roots.findSome? f = some t) :
    f (.object a.table.toList) = some t ∨
      ∃ s document, a.get? outputKey = some (.string s) ∧
        document ∈ Json.rowOfChars s.toList ∧ f document = some t := by
  obtain ⟨root, hroot, hfound⟩ := List.exists_of_findSome?_eq_some h
  rcases List.mem_cons.1 hroot with rfl | hroot
  · exact .inl hfound
  · right
    split at hroot
    · next s hs => exact ⟨s, root, hs, hroot, hfound⟩
    · cases hroot

/-- What is found in the table of an object comes from the object or from the heads. -/
theorem origin_table_of_object {raw field t : String} {container : Option String}
    {members : List (String × Json)} (hobject : PayloadObject raw members)
    (h : fieldText? container field (.object (ofText raw).table.toList) = some t) :
    ∃ v, Origin raw container field v ∧ t = textOf v := by
  obtain ⟨v, ht, ⟨hcontainer, hv⟩ | ⟨key, scope, hscope, hv⟩⟩ := exists_of_fieldText? h
  · refine ⟨v, ?_, ht⟩
    rcases under_table_of_object hobject hv with hv | ⟨hmember, hhead⟩
    · exact .payload hobject.inRow hv
    · obtain ⟨s, rfl⟩ := isString_of_headValue? hhead
      refine .head hcontainer hhead ?_
      rintro ⟨members', u, hobject', hu⟩
      obtain rfl := Json.object.inj (Option.some.inj (hobject.symm.trans hobject'))
      rw [hmember] at hu
      cases hu
  · refine ⟨v, ?_, ht⟩
    rcases under_table_of_object hobject hscope with hscope | ⟨-, hhead⟩
    · exact .payload hobject.inRow (hv.trans hscope)
    · obtain ⟨s, rfl⟩ := isString_of_headValue? hhead
      exact absurd hv (Json.not_under_of_plain rfl)

/-- What is found in the table of another payload is the whole output or comes from the heads. -/
theorem origin_table_of_other {raw field t : String} {container : Option String}
    (hother : ∀ members, ¬ PayloadObject raw members)
    (h : fieldText? container field (.object (ofText raw).table.toList) = some t) :
    ∃ v, Origin raw container field v ∧ t = textOf v := by
  obtain ⟨v, ht, ⟨hcontainer, hv⟩ | ⟨key, scope, hscope, hv⟩⟩ := exists_of_fieldText? h
  · refine ⟨v, ?_, ht⟩
    rcases under_table_of_other hother hv with ⟨hfield, rfl⟩ | hhead
    · exact .whole hcontainer hfield hother
    · obtain ⟨s, rfl⟩ := isString_of_headValue? hhead
      exact .head hcontainer hhead fun hown => hother _ hown.choose_spec.choose_spec.1
  · exfalso
    rcases under_table_of_other hother hscope with ⟨-, rfl⟩ | hhead
    · exact Json.not_under_of_plain rfl hv
    · obtain ⟨s, rfl⟩ := isString_of_headValue? hhead
      exact Json.not_under_of_plain rfl hv

/-- **Every text has an origin.** -/
theorem exists_origin {entry : Entry} {field raw t : String}
    (hfield : entry.textField? = some field) (h : (ofText raw).text entry = .ok t) :
    ∃ v, Origin raw entry.container? field v ∧ t = textOf v := by
  rw [text_of_field hfield] at h
  split at h
  · next found hfound =>
    obtain rfl := Except.ok.inj h
    by_cases hobject : ∃ members, PayloadObject raw members
    · obtain ⟨members, hobject⟩ := hobject
      rcases findSome?_roots_eq_some hfound with htable | ⟨s, document, hs, hdocument, hfound⟩
      · exact origin_table_of_object hobject htable
      · obtain ⟨v, ht, hv⟩ := under_of_fieldText? hfound
        exact ⟨v, .embedded hobject hs (Json.mem_rowOfChars_iff.1 hdocument) hv, ht⟩
    · have hother := not_exists.1 hobject
      rcases findSome?_roots_eq_some hfound with htable | ⟨s, document, hs, hdocument, hfound⟩
      · exact origin_table_of_other hother htable
      · rw [get?_of_other hother, if_pos rfl] at hs
        obtain rfl := Json.string.inj (Option.some.inj hs)
        obtain ⟨v, ht, hv⟩ := under_of_fieldText? hfound
        exact ⟨v, .payload (inRow_payload hdocument) hv, ht⟩
  · cases h

/-! ## Texts from the payload -/

/-- Nothing but the payload can answer for the field. -/
structure Clear (raw : String) (container : Option String) (field : String) : Prop where
  head : container = none → field ∈ headNames raw → HasOwn raw field
  whole : container = none → field = outputKey → ∃ members, PayloadObject raw members
  embedded : ∀ members s, PayloadObject raw members →
    (ofText raw).get? outputKey = some (.string s) →
      ∀ document v, Json.InRow document s.toList → ¬ Json.Under field v document

/-- Where nothing else can answer for the field, the origin of a text is the payload. -/
theorem Clear.fromPayload {raw field : String} {container : Option String} {v : Json}
    (hclear : Clear raw container field) (hv : Origin raw container field v) :
    FromPayload raw field (textOf v) := by
  cases hv with
  | payload hdocument hv => exact ⟨_, v, hdocument, hv, rfl⟩
  | head hcontainer hs hown =>
    exact absurd (hclear.head hcontainer (headValue?_isSome_iff.1 ⟨_, hs⟩)) hown
  | whole hcontainer hfield hother =>
    obtain ⟨members, hobject⟩ := hclear.whole hcontainer hfield
    exact absurd hobject (hother members)
  | embedded hpayload hs hdocument hv =>
    exact absurd hv (hclear.embedded _ _ hpayload hs _ v hdocument)

/-- Without a container, what stands in the table under the field is the text. -/
theorem text_of_get? {entry : Entry} {field : String} (hfield : entry.textField? = some field)
    (hcontainer : entry.container? = none) {a : Answer} {v : Json} (h : a.get? field = some v) :
    a.text entry = .ok (textOf v) := by
  refine text_of_table hfield ?_
  have hmember : (Json.object a.table.toList).member? field = some v := h
  rw [hcontainer, fieldText?, Json.locate?_of_member? hmember]
  rfl

/-- **Where the text comes from.** Every text has an origin. Where nothing but the payload can
answer for the field, it is the text of a value under the field in a document of the payload, and a
payload without such a value has no text. Without a container, the heads and the whole output answer
for the field where the payload does not: then they are the text. -/
theorem text_from_payload {entry : Entry} {field : String}
    (hfield : entry.textField? = some field) (raw : String) :
    (∀ t, (ofText raw).text entry = .ok t →
      ∃ v, Origin raw entry.container? field v ∧ t = textOf v) ∧
    (Clear raw entry.container? field →
      (∀ t, (ofText raw).text entry = .ok t → FromPayload raw field t) ∧
      ((∀ document v, Json.InRow document (payload raw) → ¬ Json.Under field v document) →
        (ofText raw).text entry = .error (.textNotFound (some field) raw))) ∧
    (entry.container? = none →
      (field = outputKey → (∀ members, ¬ PayloadObject raw members) →
        (ofText raw).text entry = .ok raw) ∧
      (∀ s, headValue? raw field = some (.string s) → ¬ HasOwn raw field →
        (field = outputKey → ∃ members, PayloadObject raw members) →
          (ofText raw).text entry = .ok s)) := by
  refine ⟨fun t => exists_origin hfield, fun hclear => ?_, fun hcontainer => ⟨?_, ?_⟩⟩
  · have hpayload : ∀ t, (ofText raw).text entry = .ok t → FromPayload raw field t := by
      intro t ht
      obtain ⟨v, hv, rfl⟩ := exists_origin hfield ht
      exact hclear.fromPayload hv
    refine ⟨hpayload, fun hnone => ?_⟩
    have hresult := text_of_field hfield (ofText raw)
    split at hresult
    · next t _ =>
      obtain ⟨document, v, hdocument, hv, -⟩ := hpayload t hresult
      exact absurd hv (hnone document v hdocument)
    · rw [hresult, raw_ofText]
  · intro houtput hother
    have hget := get?_of_other hother field
    rw [if_pos houtput] at hget
    exact text_of_get? hfield hcontainer hget
  · intro s hs hown hwhole
    have hget : (ofText raw).get? field = some (.string s) := by
      by_cases hobject : ∃ members, PayloadObject raw members
      · obtain ⟨members, hobject⟩ := hobject
        rw [get?_of_object hobject]
        cases hmember : SortedMap.lookup field members with
        | some v => exact absurd ⟨members, v, hobject, hmember⟩ hown
        | none => exact hs
      · have hfield' : field ≠ outputKey := fun houtput => hobject (hwhole houtput)
        rw [get?_of_other (not_exists.1 hobject), if_neg hfield']
        exact hs
    exact text_of_get? hfield hcontainer hget

/-- A page that a proxy sends instead of an answer. -/
def proxyPage : String :=
  "HTTP/1.1 502 Bad Gateway\r\nserver: proxy\r\n\r\n<html>502</html>"

/-- An answer whose text stands deep inside. -/
def nestedAnswer : String :=
  "HTTP/2 200\nserver: proxy\n\n\x7b\"results\": [\x7b\"text\": \"t\"\x7d]\x7d"

theorem text_from_payload_proxyPage :
    (fieldEntry "text").textField? = some "text" ∧
      (Clear proxyPage (fieldEntry "text").container? "text" ∧
        (ofText proxyPage).text (fieldEntry "text") =
          .error (.textNotFound (some "text") proxyPage)) ∧
      (Clear nestedAnswer (fieldEntry "text").container? "text" ∧
        (ofText nestedAnswer).text (fieldEntry "text") = .ok "t" ∧
        FromPayload nestedAnswer "text" "t") := by
  have hfield : (fieldEntry "text").textField? = some "text" := by cbv
  have hpage : Clear proxyPage (fieldEntry "text").container? "text" := by
    refine ⟨fun _ hname => absurd hname (by decide +kernel), fun _ houtput => ?_, ?_⟩
    · exact absurd houtput (by decide)
    · intro members s hobject
      have hother : Json.ofChars? (Text.trim (payload proxyPage)) = none := by cbv
      rw [PayloadObject, hother] at hobject
      cases hobject
  have hnone : ∀ document v, Json.InRow document (payload proxyPage) →
      ¬ Json.Under "text" v document := by
    intro document v hdocument
    have hrow : Json.rowOfChars (payload proxyPage) = [] := by cbv
    rw [← Json.mem_rowOfChars_iff, hrow] at hdocument
    cases hdocument
  have hanswer : Clear nestedAnswer (fieldEntry "text").container? "text" := by
    refine ⟨fun _ hname => absurd hname (by decide +kernel), fun _ houtput => ?_, ?_⟩
    · exact absurd houtput (by decide)
    · intro members s _ houtput
      have hget : (ofText nestedAnswer).get? outputKey = none := by cbv
      rw [hget] at houtput
      cases houtput
  have htext : (ofText nestedAnswer).text (fieldEntry "text") = .ok "t" := by cbv
  exact ⟨hfield, ⟨hpage, ((text_from_payload hfield proxyPage).2.1 hpage).2 hnone⟩, hanswer, htext,
    ((text_from_payload hfield nestedAnswer).2.1 hanswer).1 "t" htext⟩

/-- A page without heads. -/
def barePage : String := "<html>502</html>"

/-- An answer without a text, whose header has the name of the field. -/
def namedAnswer : String := "HTTP/1.1 200 OK\r\nmodel: granite\r\n\r\n\x7b\x7d"

/-- A page is the text of an entry that asks for `output`, and a header's value that of an entry
that asks for its name. -/
theorem not_text_from_payload_barePage :
    ((fieldEntry "output").textField? = some "output" ∧
        (∀ document, ¬ Json.InRow document (payload barePage)) ∧
        (ofText barePage).text (fieldEntry "output") = .ok barePage ∧
        ¬ FromPayload barePage "output" barePage) ∧
      ((fieldEntry "model").textField? = some "model" ∧
        (∀ document v, Json.InRow document (payload namedAnswer) →
          ¬ Json.Under "model" v document) ∧
        (ofText namedAnswer).text (fieldEntry "model") = .ok "granite" ∧
        ¬ FromPayload namedAnswer "model" "granite") := by
  have hpage : ∀ document, ¬ Json.InRow document (payload barePage) := by
    intro document hdocument
    have hrow : Json.rowOfChars (payload barePage) = [] := by cbv
    rw [← Json.mem_rowOfChars_iff, hrow] at hdocument
    cases hdocument
  have hanswer : ∀ document v, Json.InRow document (payload namedAnswer) →
      ¬ Json.Under "model" v document := by
    intro document v hdocument hv
    have hrow : Json.rowOfChars (payload namedAnswer) = [.object []] := by cbv
    rw [← Json.mem_rowOfChars_iff, hrow, List.mem_singleton] at hdocument
    subst hdocument
    rcases Json.under_object_iff.1 hv with hv | ⟨e, he, -⟩
    · cases hv
    · cases he
  refine ⟨⟨by cbv, hpage, by cbv, ?_⟩, by cbv, hanswer, by cbv, ?_⟩
  · rintro ⟨document, v, hdocument, -⟩
    exact hpage document hdocument
  · rintro ⟨document, v, hdocument, hv, -⟩
    exact hanswer document v hdocument hv

end ModelProbe.Answer
