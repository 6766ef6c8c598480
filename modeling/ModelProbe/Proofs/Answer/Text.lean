import Mathlib
import ModelProbe.Proofs.Answer.Decode
import ModelProbe.Proofs.Json.Locate
import ModelProbe.Verdict
/-!
# The text of an answer behind its heads

Heads leave plain strings in the table, and a search does not go into strings. So the text that is
found in one object is the same with heads before it and without them. Any other payload is kept
together with its heads, so that only what stands under `output` itself can still be found.

* `check_printed_text`: an answer is verified against the text that it was written with.
* `sameText_printed_iff`: when heads do not change the text that is found.
-/

namespace ModelProbe.Answer

/-! ## What heads leave in a table -/

/-- Heads leave plain strings. -/
theorem isNested_of_mem_entries {heads : List Head} {e : String × Json}
    (he : e ∈ heads.flatMap Head.entries) : e.2.isNested = false := by
  obtain ⟨h, -, he⟩ := List.mem_flatMap.1 he
  rw [Head.entries, List.mem_cons, List.mem_map] at he
  rcases he with rfl | ⟨l, -, rfl⟩ <;> rfl

/-- Under a name that no head uses stands what stood there without the heads. -/
theorem get?_ofList_of_not_mem {heads : List Head} {name : String}
    (hname : name ∉ heads.flatMap Head.names) (members : List (String × Json)) :
    (SortedMap.ofList (heads.flatMap Head.entries ++ members)).get? name =
      (SortedMap.ofList members).get? name := by
  have hnone : (heads.flatMap Head.entries).reverse.lookup name = none := by
    rw [List.lookup_eq_none_iff]
    intro e he
    rw [List.mem_reverse, List.mem_flatMap] at he
    obtain ⟨h, hh, he⟩ := he
    have hmem : e.1 ∈ heads.flatMap Head.names :=
      List.mem_flatMap.2 ⟨h, hh, List.mem_map_of_mem he⟩
    have hne : name ≠ e.1 := fun heq => hname (heq ▸ hmem)
    simpa using hne
  rw [SortedMap.get?_ofList, SortedMap.get?_ofList, List.reverse_append, List.lookup_append, hnone,
    Option.or_none]

/-- The nested values of a table are those of the object behind the heads. -/
theorem filter_isNested_ofList (heads : List Head) (members : List (String × Json)) :
    ((SortedMap.ofList (heads.flatMap Head.entries ++ members)).toList.filter
        fun e => e.2.isNested) =
      (SortedMap.ofList members).toList.filter fun e => e.2.isNested := by
  refine SortedMap.filter_toList_congr Json.isNested fun name v hv => ?_
  rw [SortedMap.get?_ofList, SortedMap.get?_ofList, List.reverse_append, List.lookup_append]
  cases members.reverse.lookup name with
  | some w => rfl
  | none =>
    rw [Option.none_or]
    constructor
    · intro h
      have hplain := isNested_of_mem_entries (List.mem_reverse.1 (SortedMap.mem_of_lookup_eq_some h))
      rw [hv] at hplain
      cases hplain
    · intro h
      cases h

/-- **Heads do not disturb the search in an object.** Under a key that no head uses, the table finds
what the object finds without heads. -/
theorem locate?_table_of_not_mem {heads : List Head} {key : String}
    (hkey : key ∉ heads.flatMap Head.names) (members : List (String × Json)) :
    (Json.object (SortedMap.ofList (heads.flatMap Head.entries ++ members)).toList).locate? key =
      (Json.object (SortedMap.ofList members).toList).locate? key :=
  Json.locate?_object_congr key (get?_ofList_of_not_mem hkey members)
    (filter_isNested_ofList heads members)

/-! ## Texts -/

/-- The text under a mapped field is the first that is found. -/
theorem text_of_field {entry : Entry} {field : String} (hfield : entry.textField? = some field)
    (a : Answer) :
    a.text entry =
      match a.roots.findSome? (fieldText? entry.container? field) with
      | some s => .ok s
      | none => .error (.textNotFound (some field) a.raw) := by
  cases hfound : a.roots.findSome? (fieldText? entry.container? field) <;>
    simp only [text, hfield, hfound]

/-- The text under a mapped field is found in the table before all other values. -/
theorem text_of_table {entry : Entry} {field s : String} (hfield : entry.textField? = some field)
    {a : Answer} (h : fieldText? entry.container? field (.object a.table.toList) = some s) :
    a.text entry = .ok s := by
  rw [text_of_field hfield, roots, List.findSome?_cons, h]

/-! ## Texts that were written -/

/-- A value has the text `s` under the field, in the first item of the container when there is
one. -/
def HasText (container : Option String) (field s : String) (v : Json) : Prop :=
  match container with
  | none => v.member? field = some (.string s)
  | some key => ∃ inner others,
      v.member? key = some (.array (inner :: others)) ∧ inner.member? field = some (.string s)

/-- The text that a value has is found in it. -/
theorem fieldText?_of_hasText {container : Option String} {field s : String} {v : Json}
    (h : HasText container field s v) : fieldText? container field v = some s := by
  cases container with
  | none =>
    rw [fieldText?, Json.locate?_of_member? h]
    rfl
  | some key =>
    obtain ⟨inner, others, hkey, hfield⟩ := h
    have hscope : (Json.array (inner :: others)).locate? field = some (.string s) := by
      rw [Json.locate?_array, Json.locate?_of_member? hfield]
    rw [fieldText?, Json.locate?_of_member? hkey, Option.bind_some, hscope]
    rfl

/-- Behind heads, the members of an object stand in the table as they stood in the object. -/
theorem member?_table {m : JsonObject} {name : String} {v : Json}
    (h : (Json.object m.toList).member? name = some v) (heads : List Head) :
    (Json.object
      (SortedMap.ofList (heads.flatMap Head.entries ++ m.toList)).toList).member? name = some v := by
  have hmember : m.get? name = some v := h
  have htable := SortedMap.get?_ofList (heads.flatMap Head.entries ++ m.toList) name
  rw [List.reverse_append, List.lookup_append, SortedMap.lookup_reverse_toList, hmember] at htable
  exact htable

/-- Behind heads, an object has the text that it had. -/
theorem hasText_table {container : Option String} {field s : String} {m : JsonObject}
    (h : HasText container field s (.object m.toList)) (heads : List Head) :
    HasText container field s
      (.object (SortedMap.ofList (heads.flatMap Head.entries ++ m.toList)).toList) := by
  cases container with
  | none => exact member?_table h heads
  | some key =>
    obtain ⟨inner, others, hkey, hinner⟩ := h
    exact ⟨inner, others, member?_table hkey heads, hinner⟩

/-- **A written answer is verified exactly against its own text.** The heads are any, the object
has any further members, and the text has any characters. -/
theorem check_printed_text (entry : Entry) (field s : String)
    (hfield : entry.textField? = some field) (heads : List Head) (body : String)
    (members : List (String × Json)) (hbody : Json.ofText? body = some (.object members))
    (htext : HasText entry.container? field s (.object members)) (token : Option String) :
    (ofText (printed heads body)).check entry (.text s) token = .ok () ∧
      ∀ t, t ≠ s →
        (ofText (printed heads body)).check entry (.text t) token =
          .error (.textMismatch t s) := by
  obtain ⟨m, rfl⟩ := Json.exists_map_of_ofChars?_object hbody
  obtain ⟨hpayload, r, hbrace⟩ := Json.ofChars?_trim_of_object hbody
  have htable := ofText_printed_object heads hpayload (not_mark_of_brace hbrace)
  have hactual : (ofText (printed heads body)).text entry = .ok s := by
    rw [htable]
    exact text_of_table hfield (fieldText?_of_hasText (hasText_table htext heads))
  refine ⟨?_, fun t ht => ?_⟩
  · simp only [check, hactual, if_pos]
  · simp only [check, hactual, if_neg (Ne.symm ht)]

/-- An entry whose text stands in a container. -/
def containedEntry : Entry :=
  { endpoint := "", header := "", body := "",
    fields := .ofList [("response_text", "text"), ("response", "results")] }

/-- A text with quotes, a line break and a head's mark. -/
def quotingText : String := "a \"b\"\nHTTP/1.1"

/-- An answer with this text, as it is written. -/
def quotingBody : String :=
  "\x7b\"id\": null, \"results\": [\x7b\"text\": \"a \\\"b\\\"\\nHTTP/1.1\"\x7d]\x7d"

theorem check_quotingBody :
    containedEntry.textField? = some "text" ∧
      (∃ members, Json.ofText? quotingBody = some (.object members) ∧
        HasText containedEntry.container? "text" quotingText (.object members)) ∧
      (ofText (printed [continueHead, repeatingHead] quotingBody)).check containedEntry
        (.text quotingText) none = .ok () ∧
      (ofText (printed [continueHead, repeatingHead] quotingBody)).check containedEntry
        (.text "a") none = .error (.textMismatch "a" quotingText) := by
  have hfield : containedEntry.textField? = some "text" := by cbv
  have hbody : Json.ofText? quotingBody = some (.object [("id", .null),
      ("results", .array [.object [("text", .string quotingText)]])]) := by cbv
  have htext : HasText containedEntry.container? "text" quotingText (.object [("id", .null),
      ("results", .array [.object [("text", .string quotingText)]])]) := ⟨_, _, rfl, rfl⟩
  have hcheck := check_printed_text containedEntry "text" quotingText hfield
    [continueHead, repeatingHead] quotingBody _ hbody htext none
  exact ⟨hfield, ⟨_, hbody, htext⟩, hcheck.1, hcheck.2 "a" (by decide)⟩

/-! ## Texts with heads and without -/

/-- No head uses a name under which a text is looked for. -/
structure Apart (entry : Entry) (heads : List Head) : Prop where
  field : ∀ name, entry.textField? = some name → name ∉ heads.flatMap Head.names
  container : ∀ name, entry.container? = some name → name ∉ heads.flatMap Head.names
  output : outputKey ∉ heads.flatMap Head.names

/-- Two answers have the same text, or neither has a text. -/
def SameText (entry : Entry) (a b : Answer) : Prop :=
  (∃ s, a.text entry = .ok s ∧ b.text entry = .ok s) ∨
    (a.text entry = .error (.textNotFound entry.textField? a.raw) ∧
      b.text entry = .error (.textNotFound entry.textField? b.raw))

/-- In the table of some heads and an object, the text is found that is found in the object. -/
theorem findSome?_roots_table {entry : Entry} {field : String} {heads : List Head}
    (hfield : entry.textField? = some field) (hapart : Apart entry heads)
    (members : List (String × Json)) (raw raw' : String) :
    (roots ⟨raw, SortedMap.ofList (heads.flatMap Head.entries ++ members)⟩).findSome?
        (fieldText? entry.container? field) =
      (roots ⟨raw', SortedMap.ofList members⟩).findSome? (fieldText? entry.container? field) := by
  -- The table and the value under `output` are all that is looked into.
  have htable : fieldText? entry.container? field
      (.object (SortedMap.ofList (heads.flatMap Head.entries ++ members)).toList) =
        fieldText? entry.container? field (.object (SortedMap.ofList members).toList) := by
    cases hcontainer : entry.container? with
    | none =>
      rw [fieldText?, locate?_table_of_not_mem (hapart.field field hfield)]
      rfl
    | some key =>
      rw [fieldText?, locate?_table_of_not_mem (hapart.container key hcontainer)]
      rfl
  rw [roots, roots, List.findSome?_cons, List.findSome?_cons, htable, get?, get?,
    get?_ofList_of_not_mem hapart.output]

/-- Equal findings make the same text. -/
theorem sameText_of_findSome?_eq {entry : Entry} {field : String} {a b : Answer}
    (hfield : entry.textField? = some field)
    (h : a.roots.findSome? (fieldText? entry.container? field) =
      b.roots.findSome? (fieldText? entry.container? field)) : SameText entry a b := by
  rw [SameText, text_of_field hfield, text_of_field hfield, h, hfield]
  cases b.roots.findSome? (fieldText? entry.container? field) with
  | some s => exact .inl ⟨s, rfl, rfl⟩
  | none => exact .inr ⟨rfl, rfl⟩

/-- A text under `output` is the whole output, or stands in a row of values there. -/
theorem findSome?_roots_output (container : Option String) (field raw output : String) :
    (roots ⟨raw, SortedMap.ofList [(outputKey, .string output)]⟩).findSome?
        (fieldText? container field) =
      if container = none ∧ field = outputKey then some output
      else (Json.rowOfChars output.toList).findSome? (fieldText? container field) := by
  have hplain : ∀ key, (Json.object [(outputKey, .string output)]).locate? key =
      if key = outputKey then some (.string output) else none := by
    intro key
    rw [Json.locate?_object, Json.locateFrom?_of_plain key rfl, Option.or_none, SortedMap.lookup]
    by_cases hkey : key = outputKey <;> simp [hkey, SortedMap.lookup]
  have hroots : roots ⟨raw, SortedMap.ofList [(outputKey, .string output)]⟩ =
      .object [(outputKey, .string output)] :: Json.rowOfChars output.toList := by
    rw [roots, get?, SortedMap.get?_ofList]
    rfl
  rw [hroots, List.findSome?_cons]
  cases container with
  | none =>
    rw [fieldText?, hplain]
    by_cases hfield : field = outputKey <;> simp [hfield, textOf]
  | some key =>
    have hinside : (Json.string output).locate? field = none :=
      Json.locateFrom?_of_plain field rfl
    rw [fieldText?, hplain]
    by_cases hkey : key = outputKey <;> simp [hkey, hinside]

/-- A head cannot be read as a value. -/
theorem rowOfChars_of_mark {s : List Char} (hs : headMark <+: s) : Json.rowOfChars s = [] := by
  obtain ⟨more, rfl⟩ := hs
  have hskip : Json.skipSpace (headMark ++ more) = headMark ++ more :=
    Json.skipSpace_cons (by decide) _
  have hnone : Json.readValue? Json.maxDepth (headMark ++ more) = none := by
    rw [Json.readValue?.eq_def]
    dsimp only
    rw [hskip]
    rfl
  rw [Json.rowOfChars, Json.readRow]
  dsimp only
  rw [hskip, hnone]

/-- An output that has heads begins with a head's mark. -/
theorem headMark_prefix_printed {heads : List Head} (hne : heads ≠ []) (payload : String) :
    headMark <+: (printed heads payload).toList := by
  obtain ⟨h, heads, rfl⟩ := List.exists_cons_of_ne_nil hne
  rw [toList_printed, List.flatMap_cons, List.append_assoc]
  exact headMark_prefix_chars h _

/-- Without heads, an output is its payload. -/
theorem printed_nil (payload : String) : printed [] payload = payload := by simp [printed]

/-- With heads, an output is not its payload. -/
theorem printed_ne_payload {heads : List Head} (hne : heads ≠ []) (payload : String) :
    printed heads payload ≠ payload := by
  intro h
  obtain ⟨first, heads, rfl⟩ := List.exists_cons_of_ne_nil hne
  obtain ⟨more, hmore⟩ := headMark_prefix_chars first []
  rw [List.append_nil] at hmore
  have hlength := congrArg (fun s => s.toList.length) h
  simp only [toList_printed, List.flatMap_cons, ← hmore, List.length_append] at hlength
  have hmark : headMark.length = 5 := rfl
  omega

/-- **Heads hide another payload.** Behind heads, no text is found in a payload that is not one
object; all that can be asked for is the whole output. -/
theorem text_printed_other {entry : Entry} {field payload : String} {heads : List Head}
    (hfield : entry.textField? = some field) (hapart : Apart entry heads) (hne : heads ≠ [])
    (hpayload : ∀ members, Json.ofChars? (Text.trim payload.toList) ≠ some (.object members))
    (hmark : ¬ headMark <+: Text.trim payload.toList) :
    (ofText (printed heads payload)).text entry =
      if entry.container? = none ∧ field = outputKey then .ok (printed heads payload)
      else .error (.textNotFound (some field) (printed heads payload)) := by
  rw [text_of_field hfield, ofText_printed_other heads hpayload hmark,
    findSome?_roots_table hfield hapart _ _ (printed heads payload), findSome?_roots_output,
    rowOfChars_of_mark (headMark_prefix_printed hne payload)]
  by_cases hwhole : entry.container? = none ∧ field = outputKey
  · rw [if_pos hwhole, if_pos hwhole]
  · rw [if_neg hwhole, if_neg hwhole]
    rfl

/-- Where the whole output is asked for, another payload alone is the text. -/
theorem text_other_of_whole {entry : Entry} {field payload : String}
    (hfield : entry.textField? = some field)
    (hpayload : ∀ members, Json.ofChars? (Text.trim payload.toList) ≠ some (.object members))
    (hmark : ¬ headMark <+: Text.trim payload.toList)
    (hwhole : entry.container? = none ∧ field = outputKey) :
    (ofText payload).text entry = .ok payload := by
  have htable := ofText_printed_other [] hpayload hmark
  rw [printed_nil] at htable
  rw [text_of_field hfield, htable, List.flatMap_nil, List.nil_append, findSome?_roots_output,
    if_pos hwhole]

/-- The same text makes the same verdict on texts. -/
theorem check_iff_of_sameText {entry : Entry} {field : String} {a b : Answer}
    (hfield : entry.textField? = some field) (h : SameText entry a b) {expected : Expectation}
    (hexpected : expected ≠ .denied) (token : Option String) :
    a.check entry expected token = .ok () ↔ b.check entry expected token = .ok () := by
  have hmapped : entry.textField?.isSome = true := by rw [hfield]; rfl
  rcases h with ⟨s, ha, hb⟩ | ⟨ha, hb⟩
  · cases expected with
    | denied => exact absurd rfl hexpected
    | text t => simp only [check, ha, hb]
    | pattern p => simp only [check, hmapped, if_true, ha, hb]
  · cases expected with
    | denied => exact absurd rfl hexpected
    | text t => simp [check, ha, hb]
    | pattern p => simp [check, hmapped, ha, hb]

/-- **Heads do not change the text of an object.** -/
theorem sameText_of_object {entry : Entry} {field : String}
    (hfield : entry.textField? = some field) {heads : List Head} (hapart : Apart entry heads)
    {payload : String} {members : List (String × Json)}
    (hpayload : Json.ofChars? (Text.trim payload.toList) = some (.object members))
    (hmark : ¬ headMark <+: Text.trim payload.toList) :
    SameText entry (ofText (printed heads payload)) (ofText payload) := by
  refine sameText_of_findSome?_eq hfield ?_
  have halone := ofText_printed_object [] hpayload hmark
  rw [printed_nil] at halone
  rw [ofText_printed_object heads hpayload hmark, halone]
  exact findSome?_roots_table hfield hapart _ _ _

/-- Heads change the text of another payload, if it has one. -/
theorem sameText_other_iff {entry : Entry} {field payload : String} {heads : List Head}
    (hfield : entry.textField? = some field) (hapart : Apart entry heads) (hne : heads ≠ [])
    (hpayload : ∀ members, Json.ofChars? (Text.trim payload.toList) ≠ some (.object members))
    (hmark : ¬ headMark <+: Text.trim payload.toList) :
    SameText entry (ofText (printed heads payload)) (ofText payload) ↔
      (ofText payload).text entry = .error (.textNotFound (some field) payload) := by
  have hbehind := text_printed_other hfield hapart hne hpayload hmark
  by_cases hwhole : entry.container? = none ∧ field = outputKey
  · -- Both answers have a text, but one of the texts has the heads and the other has not.
    have halone := text_other_of_whole hfield hpayload hmark hwhole
    have hdiffer := (printed_ne_payload hne payload).symm
    rw [if_pos hwhole] at hbehind
    rw [SameText, hbehind, halone]
    simp [hdiffer]
  · rw [if_neg hwhole] at hbehind
    rw [SameText, hbehind, hfield, raw_ofText, raw_ofText]
    simp

/-- **When heads do not change the text.** An output has the text of its payload alone exactly when
it has no heads, or its payload is one object, or no text is found in the payload alone. Then every
verdict on the text is the same too. -/
theorem sameText_printed_iff {entry : Entry} {field : String}
    (hfield : entry.textField? = some field) {heads : List Head} (hapart : Apart entry heads)
    {payload : String} (hmark : ¬ headMark <+: Text.trim payload.toList) :
    (SameText entry (ofText (printed heads payload)) (ofText payload) ↔
      heads = [] ∨
        (∃ members, Json.ofChars? (Text.trim payload.toList) = some (.object members)) ∨
        (ofText payload).text entry = .error (.textNotFound (some field) payload)) ∧
      (SameText entry (ofText (printed heads payload)) (ofText payload) →
        ∀ expected token, expected ≠ .denied →
          ((ofText (printed heads payload)).check entry expected token = .ok () ↔
            (ofText payload).check entry expected token = .ok ())) := by
  refine ⟨?_, fun h expected token hexpected => check_iff_of_sameText hfield h hexpected token⟩
  by_cases hne : heads = []
  · subst hne
    rw [printed_nil]
    exact iff_of_true (sameText_of_findSome?_eq hfield rfl) (.inl rfl)
  by_cases hpayload : ∃ members,
      Json.ofChars? (Text.trim payload.toList) = some (.object members)
  · obtain ⟨members, hmembers⟩ := hpayload
    exact iff_of_true (sameText_of_object hfield hapart hmembers hmark)
      (.inr (.inl ⟨members, hmembers⟩))
  · rw [or_iff_right hne, or_iff_right hpayload]
    exact sameText_other_iff hfield hapart hne (not_exists.1 hpayload) hmark

/-- An entry whose text stands under a name. -/
def fieldEntry (name : String) : Entry :=
  { endpoint := "", header := "", body := "", fields := .ofList [("response_text", name)] }

theorem sameText_gappedBody :
    (fieldEntry "text").textField? = some "text" ∧
      Apart (fieldEntry "text") [continueHead, repeatingHead] ∧
      ¬ headMark <+: Text.trim gappedBody.toList ∧
      SameText (fieldEntry "text") (ofText (printed [continueHead, repeatingHead] gappedBody))
        (ofText gappedBody) := by
  have hfield : (fieldEntry "text").textField? = some "text" := by cbv
  have hcontainer : (fieldEntry "text").container? = none := by cbv
  have hapart : Apart (fieldEntry "text") [continueHead, repeatingHead] := by
    refine ⟨fun name hname => ?_, fun name hname => ?_, by decide⟩
    · rw [hfield] at hname
      obtain rfl := Option.some.inj hname
      decide
    · rw [hcontainer] at hname
      cases hname
  have hmark : ¬ headMark <+: Text.trim gappedBody.toList := by decide
  have hbody : Json.ofChars? (Text.trim gappedBody.toList) =
      some (.object [("text", .string "t")]) := by cbv
  exact ⟨hfield, hapart, hmark,
    (sameText_printed_iff hfield hapart hmark).1.2 (.inr (.inl ⟨_, hbody⟩))⟩

/-- A head without headers. -/
def bareHead : Head where
  version := "HTTP/1.0"
  status := "200 OK"
  headers := []
  lineEnd := .crlf

/-- Two values in a row. -/
def rowBody : String := "\x7b\"text\":\"t\"\x7d\n\x7b\x7d"

/-- A head without headers hides a text in a row of values, and shows its status to an entry that
looks for the version. -/
theorem not_sameText_bareHead :
    bareHead.headers = [] ∧
      ((fieldEntry "text").textField? = some "text" ∧
        ¬ headMark <+: Text.trim rowBody.toList ∧
        ¬ SameText (fieldEntry "text") (ofText (printed [bareHead] rowBody)) (ofText rowBody)) ∧
      ((fieldEntry "HTTP/1.0").textField? = some "HTTP/1.0" ∧
        ¬ headMark <+: Text.trim gappedBody.toList ∧
        ¬ SameText (fieldEntry "HTTP/1.0") (ofText (printed [bareHead] gappedBody))
          (ofText gappedBody)) := by
  have hfield : (fieldEntry "text").textField? = some "text" := by cbv
  have hversion : (fieldEntry "HTTP/1.0").textField? = some "HTTP/1.0" := by cbv
  have hrow : (ofText rowBody).text (fieldEntry "text") = .ok "t" := by cbv
  have hrow' : (ofText (printed [bareHead] rowBody)).text (fieldEntry "text") =
      .error (.textNotFound (some "text") (printed [bareHead] rowBody)) := by cbv
  have hbody : (ofText gappedBody).text (fieldEntry "HTTP/1.0") =
      .error (.textNotFound (some "HTTP/1.0") gappedBody) := by cbv
  have hbody' : (ofText (printed [bareHead] gappedBody)).text (fieldEntry "HTTP/1.0") =
      .ok "200 OK" := by cbv
  refine ⟨rfl, ⟨hfield, by decide, ?_⟩, hversion, by decide, ?_⟩
  · rw [SameText, hrow, hrow']
    simp
  · rw [SameText, hbody, hbody']
    simp

end ModelProbe.Answer
