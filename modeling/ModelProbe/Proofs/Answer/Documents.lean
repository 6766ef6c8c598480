import Mathlib
import ModelProbe.Proofs.Answer.Origin
/-!
# Objects in a row

An output may hold several objects, one after another. It is then kept whole under `output`, and
its objects are searched there one by one, each as it would be searched alone.

* `ofText_of_row`: the table of an output that begins with two documents or more.
* `text_written`: the first object that has a text answers for the row.
-/

namespace ModelProbe.Answer

/-! ## Tables of rows -/

/-- The documents of an output that holds one object alone. -/
theorem rowOfChars_of_trim {s : List Char} {members : List (String × Json)}
    (h : Json.ofChars? (Text.trim s) = some (.object members)) :
    Json.rowOfChars (Text.trimStart s) = [.object members] := by
  obtain ⟨w, hblank, hw⟩ := Text.exists_trimEnd_append (Text.trimStart s)
  rw [hw]
  rw [Text.trim] at h
  rw [Json.rowOfChars_append h (.inl rfl), Json.rowOfChars_of_blank hblank]

/-- **The table of a row.** An output that begins with two documents or more is kept whole. -/
theorem ofText_of_row {raw : String} (hrow : 2 ≤ (Json.rowOfChars raw.toList).length) :
    ofText raw = ⟨raw, SortedMap.ofList [(outputKey, .string raw)]⟩ := by
  have hne : Json.rowOfChars raw.toList ≠ [] := by
    intro h
    rw [h] at hrow
    cases hrow
  have hstart := Json.rowOfChars_trimStart hne
  have hother : ∀ members, Json.ofChars? (Text.trim raw.toList) ≠ some (.object members) := by
    intro members hobject
    rw [← hstart, rowOfChars_of_trim hobject, List.length_singleton] at hrow
    omega
  have hmark : ¬ headMark <+: Text.trim raw.toList := by
    intro hmark
    obtain ⟨w, -, hw⟩ := Text.exists_trimEnd_append (Text.trimStart raw.toList)
    have hprefix : headMark <+: Text.trimStart raw.toList := by
      rw [hw]
      exact hmark.trans (List.prefix_append _ w)
    exact hne (hstart ▸ rowOfChars_of_mark hprefix)
  have htable := ofText_printed_other [] hother hmark
  rw [printed_nil] at htable
  exact htable

/-- What is looked for under a mapped field is looked for in the documents of a row, from the first
to the last, unless the whole output is asked for. -/
theorem text_of_row {entry : Entry} {field raw : String} (hfield : entry.textField? = some field)
    (hname : entry.container? = none → field ≠ outputKey)
    (hrow : 2 ≤ (Json.rowOfChars raw.toList).length) :
    (ofText raw).text entry =
      match (Json.rowOfChars raw.toList).findSome? (fieldText? entry.container? field) with
      | some s => .ok s
      | none => .error (.textNotFound (some field) raw) := by
  cases hfound : (Json.rowOfChars raw.toList).findSome? (fieldText? entry.container? field) <;>
    rw [text_of_field hfield, ofText_of_row hrow, findSome?_roots_output,
      if_neg fun hwhole => hname hwhole.1 hwhole.2, hfound]

/-! ## Written rows -/

/-- An object as it is written in a row, with blanks in front. It has no string under `output`. -/
structure Document where
  gap : String
  text : String
  members : List (String × Json)
  gap_spaces : ∀ c ∈ gap.toList, Json.isSpace c = true
  reads : Json.ofText? text = some (.object members)
  plain : ∀ s, SortedMap.lookup outputKey members ≠ some (.string s)

namespace Document

/-- The object. -/
def value (d : Document) : Json := .object d.members

/-- The characters of an object in a row. -/
def chars (d : Document) : List Char := d.gap.toList ++ d.text.toList

end Document

/-- The objects one after another. -/
def written (docs : List Document) : String := String.ofList (docs.flatMap Document.chars)

variable {entry : Entry} {field : String}

/-- The text of an object alone is what is found in it. -/
theorem text_document (hfield : entry.textField? = some field) (d : Document) :
    (ofText d.text).text entry =
      match fieldText? entry.container? field d.value with
      | some s => .ok s
      | none => .error (.textNotFound (some field) d.text) := by
  obtain ⟨m, hm⟩ := Json.exists_map_of_ofChars?_object d.reads
  obtain ⟨hpayload, r, hbrace⟩ := Json.ofChars?_trim_of_object d.reads
  have htable := ofText_printed_object [] hpayload (not_mark_of_brace hbrace)
  rw [printed_nil, List.flatMap_nil, List.nil_append, hm, SortedMap.ofList_toList] at htable
  -- The table is the object, and nothing stands in a string under `output`.
  have hroots : (⟨d.text, m⟩ : Answer).roots = [d.value] := by
    rw [roots, Document.value, hm]
    congr 1
    split
    · next s hs =>
      have hplain := d.plain s
      rw [hm] at hplain
      exact absurd hs hplain
    · rfl
  rw [text_of_field hfield, htable, hroots, List.findSome?_cons, List.findSome?_nil]
  cases fieldText? entry.container? field d.value <;> rfl

/-- The documents of a written row are its objects, and what can be read behind them. -/
theorem rowOfChars_written (docs : List Document) (tail : String) :
    Json.rowOfChars (written docs ++ tail).toList =
      docs.map Document.value ++ Json.rowOfChars tail.toList := by
  rw [String.toList_append, written, String.toList_ofList]
  induction docs with
  | nil => rfl
  | cons d docs ih =>
    rw [List.flatMap_cons, Document.chars, List.append_assoc, List.append_assoc,
      Json.rowOfChars_append_of_spaces d.gap_spaces, Json.rowOfChars_append d.reads (.inl rfl), ih]
    rfl

/-- Two objects or more are a row, whatever stands behind them. -/
theorem two_le_length_written {docs : List Document} (hdocs : 2 ≤ docs.length) (tail : String) :
    2 ≤ (Json.rowOfChars (written docs ++ tail).toList).length := by
  rw [rowOfChars_written, List.length_append, List.length_map]
  omega

/-- What is found in a written row is found in its first object that has it, or else behind the
objects. -/
theorem text_written_append (hfield : entry.textField? = some field)
    (hname : entry.container? = none → field ≠ outputKey) {docs : List Document}
    (hdocs : 2 ≤ docs.length) (tail : String) :
    (ofText (written docs ++ tail)).text entry =
      match (docs.findSome? fun d => fieldText? entry.container? field d.value).or
          ((Json.rowOfChars tail.toList).findSome? (fieldText? entry.container? field)) with
      | some s => .ok s
      | none => .error (.textNotFound (some field) (written docs ++ tail)) := by
  rw [text_of_row hfield hname (two_le_length_written hdocs tail), rowOfChars_written,
    List.findSome?_append, List.findSome?_map]
  rfl

/-- An object alone has the text that is found in it. -/
theorem text_document_eq_ok_iff (hfield : entry.textField? = some field) (d : Document)
    (s : String) :
    (ofText d.text).text entry = .ok s ↔ fieldText? entry.container? field d.value = some s := by
  rw [text_document hfield]
  cases fieldText? entry.container? field d.value <;> simp

/-- An object alone has no text when nothing is found in it. -/
theorem text_document_eq_error_iff (hfield : entry.textField? = some field) (d : Document) :
    (ofText d.text).text entry = .error (.textNotFound (some field) d.text) ↔
      fieldText? entry.container? field d.value = none := by
  rw [text_document hfield]
  cases fieldText? entry.container? field d.value <;> simp

/-- **Objects in a row are searched one by one.** Two objects or more, one after another, have the
text of the first of them that has one alone, and no text exactly when none of them has one alone.
A text that they have stays the same whatever stands behind them. -/
theorem text_written (hfield : entry.textField? = some field)
    (hname : entry.container? = none → field ≠ outputKey) {docs : List Document}
    (hdocs : 2 ≤ docs.length) :
    (∀ s, (ofText (written docs)).text entry = .ok s ↔
      ∃ before d after, docs = before ++ d :: after ∧
        (∀ b ∈ before, (ofText b.text).text entry = .error (.textNotFound (some field) b.text)) ∧
        (ofText d.text).text entry = .ok s) ∧
    ((ofText (written docs)).text entry = .error (.textNotFound (some field) (written docs)) ↔
      ∀ d ∈ docs, (ofText d.text).text entry = .error (.textNotFound (some field) d.text)) ∧
    ∀ s, (ofText (written docs)).text entry = .ok s →
      ∀ tail, (ofText (written docs ++ tail)).text entry = .ok s := by
  have htext := text_written_append hfield hname hdocs
  have halone := htext ""
  have hnone : Json.rowOfChars "".toList = [] := by decide
  rw [String.append_empty, hnone, List.findSome?_nil, Option.or_none] at halone
  have hok : ∀ s, (ofText (written docs)).text entry = .ok s ↔
      (docs.findSome? fun d => fieldText? entry.container? field d.value) = some s := by
    intro s
    rw [halone]
    cases docs.findSome? fun d => fieldText? entry.container? field d.value <;> simp
  refine ⟨fun s => ?_, ?_, fun s hs tail => ?_⟩
  · simp only [hok, List.findSome?_eq_some_iff, text_document_eq_ok_iff hfield,
      text_document_eq_error_iff hfield]
    constructor
    · rintro ⟨before, d, after, hsplit, hd, hbefore⟩
      exact ⟨before, d, after, hsplit, hbefore, hd⟩
    · rintro ⟨before, d, after, hsplit, hbefore, hd⟩
      exact ⟨before, d, after, hsplit, hd, hbefore⟩
  · simp only [text_document_eq_error_iff hfield]
    rw [halone, ← List.findSome?_eq_none_iff]
    cases docs.findSome? fun d => fieldText? entry.container? field d.value <;> simp
  · rw [htext tail, (hok s).1 hs, Option.some_or]

/-- An object whose container has no text. -/
def emptyDocument : Document where
  gap := ""
  text := "\x7b\"results\":[\x7b\"output\":\"\"\x7d],\"output\":\x7b\x7d\x7d"
  members := [("output", .object []),
    ("results", .array [.object [("output", .string "")]])]
  gap_spaces := by simp
  reads := by cbv
  plain := by
    intro s h
    have hlookup : SortedMap.lookup outputKey [("output", Json.object []),
        ("results", .array [.object [("output", .string "")]])] = some (.object []) := rfl
    rw [hlookup] at h
    cases h

/-- An object with a text, on a line of its own. -/
def filledDocument : Document where
  gap := "\r\n\t"
  text := "\x7b\"results\":[\x7b\"text\":\"t\"\x7d]\x7d"
  members := [("results", .array [.object [("text", .string "t")]])]
  gap_spaces := List.all_eq_true.1 (by decide)
  reads := by cbv
  plain := by
    intro s h
    cases h

theorem text_written_filledDocument :
    containedEntry.textField? = some "text" ∧
      (containedEntry.container? = none → "text" ≠ outputKey) ∧
      2 ≤ [emptyDocument, filledDocument, emptyDocument].length ∧
      (ofText (written [emptyDocument, filledDocument, emptyDocument])).text containedEntry =
        .ok "t" ∧
      (ofText (written [emptyDocument, filledDocument, emptyDocument] ++ "\x7d <html>")).text
        containedEntry = .ok "t" ∧
      (ofText (written [emptyDocument, emptyDocument])).text containedEntry =
        .error (.textNotFound (some "text") (written [emptyDocument, emptyDocument])) := by
  have hfield : containedEntry.textField? = some "text" := by cbv
  have hname : containedEntry.container? = none → "text" ≠ outputKey := fun _ => by decide
  have hdocs : 2 ≤ [emptyDocument, filledDocument, emptyDocument].length := by decide
  have hempty : (ofText emptyDocument.text).text containedEntry =
      .error (.textNotFound (some "text") emptyDocument.text) := by cbv
  have hfilled : (ofText filledDocument.text).text containedEntry = .ok "t" := by cbv
  obtain ⟨hok, -, htail⟩ := text_written hfield hname hdocs
  have hfirst := (hok "t").2 ⟨[emptyDocument], filledDocument, [emptyDocument], rfl, by
    intro b hb
    rw [List.mem_singleton.1 hb]
    exact hempty, hfilled⟩
  have hpair : 2 ≤ [emptyDocument, emptyDocument].length := by decide
  have hnone := (text_written hfield hname hpair).2.1
  refine ⟨hfield, hname, hdocs, hfirst, htail "t" hfirst _, hnone.2 fun d hd => ?_⟩
  have hd' : d = emptyDocument := by simpa using hd
  rw [hd']
  exact hempty

end ModelProbe.Answer
