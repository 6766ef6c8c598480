import Mathlib.Data.List.Forall2
import ModelProbe.Proofs.Answer.Head
import ModelProbe.Proofs.Text.Replacing
import ModelProbe.Verdict
/-!
# Which line makes a call denied

The reason of a denial is looked for in the whole output, as the first text that is the name of
the reason's header in some letter case, with a colon. A line of another kind may have this text
as well. In an output in which no other line has it, the first header of that name decides.

* `afterFolded?_append_cons`: a piece is not found across a character that it cannot have.
* `check_denied_printed_iff`: which answers are verified as denied.
-/

namespace ModelProbe

namespace Denial

variable {piece : List Char}

/-! ## Pieces in any letter case -/

/-- A text is the piece in some letter case. -/
def Spells (piece t : List Char) : Prop := List.Forall₂ (fun p c => sameLetter p c = true) piece t

/-- The piece stands somewhere in the text, in some letter case. -/
def Mentions (piece s : List Char) : Prop := ∃ t, Spells piece t ∧ t <:+: s

theorem dropFolded?_eq_some_iff {s rest : List Char} :
    dropFolded? piece s = some rest ↔ ∃ t, Spells piece t ∧ s = t ++ rest := by
  induction piece generalizing s with
  | nil =>
    constructor
    · intro h
      exact ⟨[], .nil, Option.some.inj h⟩
    · rintro ⟨t, ht, rfl⟩
      cases ht
      rfl
  | cons p ps ih =>
    cases s with
    | nil =>
      constructor
      · intro h
        cases h
      · rintro ⟨t, ht, hnil⟩
        cases ht
        cases hnil
    | cons c cs =>
      rw [dropFolded?]
      constructor
      · intro h
        split at h
        · next hletter =>
          obtain ⟨t, ht, rfl⟩ := ih.1 h
          exact ⟨c :: t, .cons hletter ht, rfl⟩
        · cases h
      · rintro ⟨t, ht, hcons⟩
        cases ht with
        | cons hletter ht =>
          rw [List.cons_append, List.cons.injEq] at hcons
          obtain ⟨rfl, rfl⟩ := hcons
          rw [if_pos hletter]
          exact ih.2 ⟨_, ht, rfl⟩

/-- No text that the piece is spelled by begins the text. -/
theorem dropFolded?_eq_none_iff {s : List Char} :
    dropFolded? piece s = none ↔ ∀ t, Spells piece t → ¬ t <+: s := by
  rw [Option.eq_none_iff_forall_not_mem]
  constructor
  · rintro h t ht ⟨rest, rfl⟩
    exact h rest (dropFolded?_eq_some_iff.2 ⟨t, ht, rfl⟩)
  · intro h rest hrest
    obtain ⟨t, ht, rfl⟩ := dropFolded?_eq_some_iff.1 hrest
    exact h t ht (List.prefix_append t rest)

theorem mentions_cons_iff {c : Char} {s : List Char} :
    Mentions piece (c :: s) ↔ (∃ t, Spells piece t ∧ t <+: c :: s) ∨ Mentions piece s := by
  simp only [Mentions, List.infix_cons_iff, and_or_left, exists_or]

/-- Nothing is found exactly where the piece is not mentioned. -/
theorem afterFolded?_eq_none_iff {s : List Char} :
    afterFolded? piece s = none ↔ ¬ Mentions piece s := by
  induction s with
  | nil =>
    rw [afterFolded?, dropFolded?_eq_none_iff]
    constructor
    · rintro h ⟨t, ht, hnil⟩
      exact h t ht (List.infix_nil.1 hnil ▸ List.nil_prefix)
    · exact fun h t ht hnil => h ⟨t, ht, hnil.isInfix⟩
  | cons c s ih =>
    rw [mentions_cons_iff, not_or, ← ih, afterFolded?]
    cases hdrop : dropFolded? piece (c :: s) with
    | none =>
      have hstart := dropFolded?_eq_none_iff.1 hdrop
      constructor
      · exact fun h => ⟨fun ⟨t, ht, hpre⟩ => hstart t ht hpre, h⟩
      · exact fun h => h.2
    | some rest =>
      obtain ⟨t, ht, hs⟩ := dropFolded?_eq_some_iff.1 hdrop
      constructor
      · intro h
        cases h
      · exact fun h => absurd ⟨t, ht, rest, hs.symm⟩ h.1

theorem mentions_eq_true_iff {s : List Char} : mentions piece s = true ↔ Mentions piece s := by
  rw [mentions, Option.isSome_iff_ne_none, ne_eq, afterFolded?_eq_none_iff, not_not]

instance (piece s : List Char) : Decidable (Mentions piece s) :=
  decidable_of_iff _ mentions_eq_true_iff

/-- The piece cannot have the character. -/
def Apart (piece : List Char) (c : Char) : Prop := ∀ p ∈ piece, sameLetter p c = false

instance (piece : List Char) (c : Char) : Decidable (Apart piece c) :=
  List.decidableBAll (fun p => sameLetter p c = false) piece

/-- A text that spells the piece does not have such a character. -/
theorem Apart.not_mem {c : Char} (hc : Apart piece c) {t : List Char} (ht : Spells piece t) :
    c ∉ t := by
  intro hmem
  obtain ⟨i, hi, rfl⟩ := List.mem_iff_getElem.1 hmem
  have hlength : i < piece.length := by
    rw [ht.length_eq]
    exact hi
  have hletter := List.Forall₂.get ht hlength hi
  have hno := hc piece[i] (List.getElem_mem hlength)
  exact Bool.false_ne_true (hno.symm.trans hletter)

/-- **A piece is not found across a character that it cannot have.** -/
theorem afterFolded?_append_cons {a : List Char} {c : Char} (hc : Apart piece c)
    (ha : ¬ Mentions piece a) (s : List Char) :
    afterFolded? piece (a ++ c :: s) = afterFolded? piece s := by
  -- Where no spelling begins, the search goes on one character later.
  have hskip : ∀ {x : Char} {r : List Char}, (∀ t, Spells piece t → ¬ t <+: x :: r) →
      afterFolded? piece (x :: r) = afterFolded? piece r := by
    intro x r hno
    rw [afterFolded?, dropFolded?_eq_none_iff.2 hno]
  induction a with
  | nil =>
    refine hskip fun t ht hstart => ?_
    have hnil := Text.prefix_of_prefix_append_cons (a := []) (hc.not_mem ht) hstart
    exact ha ⟨t, ht, hnil.isInfix⟩
  | cons x a ih =>
    rw [mentions_cons_iff, not_or] at ha
    rw [List.cons_append, ← ih ha.2]
    refine hskip fun t ht hstart => ?_
    have hin := Text.prefix_of_prefix_append_cons (a := x :: a) (hc.not_mem ht) hstart
    exact ha.1 ⟨t, ht, hin⟩

/-- A piece that a text begins with is found at once. -/
theorem afterFolded?_of_spells {t : List Char} (ht : Spells piece t) (s : List Char) :
    afterFolded? piece (t ++ s) = some s := by
  have hdrop : dropFolded? piece (t ++ s) = some s := dropFolded?_eq_some_iff.2 ⟨t, ht, rfl⟩
  cases hts : t ++ s with
  | nil => rw [afterFolded?, ← hts, hdrop]
  | cons c r => rw [afterFolded?, ← hts, hdrop]

/-- A text spells its own lower-case letters. -/
theorem spells_map_toLower (t : List Char) : Spells (t.map Char.toLower) t := by
  induction t with
  | nil => exact .nil
  | cons c t ih => exact .cons (by simp [sameLetter]) ih

/-! ## Headers that give a reason -/

/-- The name of the header that gives the reason. -/
def reasonName : String := "x-ext-auth-reason"

/-- Whether a header gives a reason. Letter case does not count in its name. -/
def givesReason (l : HeaderLine) : Bool := Answer.sameName l.name reasonName

/-- The reason's name is found in the line of its header. -/
theorem spells_of_givesReason {l : HeaderLine} (hl : givesReason l = true) :
    Spells mark (l.name.toList ++ [':']) := by
  have hname : l.name.toList.map Char.toLower = reasonName.toList.map Char.toLower :=
    beq_iff_eq.1 hl
  have hmark : (l.name.toList ++ [':']).map Char.toLower = mark := by
    rw [List.map_append, hname]
    decide
  rw [← hmark]
  exact spells_map_toLower _

/-- A line of a head: its first line, or that of a header. -/
inductive Row
  | status (h : Head)
  | header (l : HeaderLine)

/-- The characters of a line. -/
def Row.chars : Row → List Char
  | status h => h.statusLine
  | header l => l.chars

/-- Whether the line mentions the mark. -/
def Row.mentionsMark (row : Row) : Bool := mentions mark row.chars

/-- The lines of a head. -/
def rows (h : Head) : List Row := .status h :: h.headers.map .header

/-- The first line of the heads that mentions the mark. -/
def firstMention (heads : List Head) : Option Row := (heads.flatMap rows).find? Row.mentionsMark

/-! ## Finding the first mention -/

/-- What is found in a text whose first mention is that of a line: the value of its header, when
this gives a reason; and without a mention, what is found in the rest of the text. -/
def Found (first : Option Row) (text rest : List Char) : Prop :=
  match first with
  | some row => ∀ l, row = .header l → givesReason l = true →
      ∃ (e : LineEnd) (more : List Char),
        afterFolded? mark text = some (' ' :: (l.value.toList ++ (e.chars ++ more)))
  | none => afterFolded? mark text = afterFolded? mark rest

/-- What is found first stays first. -/
theorem Found.trans {first second : Option Row} {text middle rest : List Char}
    (h₁ : Found first text middle) (h₂ : Found second middle rest) :
    Found (first.or second) text rest := by
  cases first with
  | some row => exact h₁
  | none =>
    have hsame : afterFolded? mark text = afterFolded? mark middle := h₁
    cases second with
    | some row =>
      intro l hrow hgives
      obtain ⟨e, more, hfound⟩ := h₂ l hrow hgives
      exact ⟨e, more, hsame.trans hfound⟩
    | none => exact Eq.trans hsame h₂

/-- Nothing is found in a line that does not mention the mark. -/
theorem found_none {line : List Char} (hline : ¬ Mentions mark line) (e : LineEnd)
    (rest : List Char) : Found none (line ++ (e.chars ++ rest)) rest := by
  have hfeed : Apart mark '\n' := by decide
  have hreturn : Apart mark '\r' := by decide
  have hnil : ¬ Mentions mark [] := by decide
  -- A line end of two characters is passed as a line and an empty line.
  cases e with
  | crlf =>
    have hsecond := afterFolded?_append_cons hfeed hnil rest
    have hfirst := afterFolded?_append_cons hreturn hline ('\n' :: rest)
    exact hfirst.trans hsecond
  | lf => exact afterFolded?_append_cons hfeed hline rest

/-- In a line, its own mention is found. -/
theorem found_row (row : Row) (e : LineEnd) (rest : List Char) :
    Found ([row].find? Row.mentionsMark) (row.chars ++ (e.chars ++ rest)) rest := by
  cases hmention : row.mentionsMark with
  | false =>
    have hfind : [row].find? Row.mentionsMark = none := by simp [hmention]
    have hno : ¬ Mentions mark row.chars := by
      rw [← mentions_eq_true_iff]
      exact Bool.eq_false_iff.1 hmention
    rw [hfind]
    exact found_none hno e rest
  | true =>
    have hfind : [row].find? Row.mentionsMark = some row := by simp [hmention]
    rw [hfind]
    rintro l rfl hgives
    -- Other lines may mention the mark anywhere; this one begins with it.
    have hchars : (Row.header l).chars ++ (e.chars ++ rest) =
        l.name.toList ++ [':'] ++ (' ' :: (l.value.toList ++ (e.chars ++ rest))) := by
      simp [Row.chars, HeaderLine.chars]
    rw [hchars]
    exact ⟨e, rest, afterFolded?_of_spells (spells_of_givesReason hgives) _⟩

/-- In a row of lines, the first mention is found. -/
theorem found_rows (e : LineEnd) (lines : List Row) (rest : List Char) :
    Found (lines.find? Row.mentionsMark)
      (lines.flatMap (fun row => row.chars ++ e.chars) ++ rest) rest := by
  induction lines with
  | nil => rfl
  | cons row lines ih =>
    have hfirst := found_row row e (lines.flatMap (fun row => row.chars ++ e.chars) ++ rest)
    have hboth := hfirst.trans ih
    rw [← List.find?_append, List.singleton_append] at hboth
    rw [List.flatMap_cons, List.append_assoc, List.append_assoc]
    exact hboth

/-- In a head, the first mention in its lines is found. -/
theorem found_head (h : Head) (rest : List Char) :
    Found ((rows h).find? Row.mentionsMark) (h.chars ++ rest) rest := by
  have hempty : Found none ([] ++ (h.lineEnd.chars ++ rest)) rest :=
    found_none (by decide) h.lineEnd rest
  have hboth := (found_rows h.lineEnd (rows h) (h.lineEnd.chars ++ rest)).trans hempty
  have hlines : h.lines = (rows h).map Row.chars := by
    rw [Head.lines, rows, List.map_cons, List.map_map]
    rfl
  rw [Option.or_none] at hboth
  rw [Head.chars, hlines, List.flatMap_map, List.append_assoc]
  exact hboth

/-- **In the heads of an output, the first mention of the mark is found.** -/
theorem found_heads (heads : List Head) (rest : List Char) :
    Found (firstMention heads) (heads.flatMap Head.chars ++ rest) rest := by
  induction heads with
  | nil => rfl
  | cons h heads ih =>
    have hboth := (found_head h (heads.flatMap Head.chars ++ rest)).trans ih
    rw [firstMention, ← List.find?_append] at hboth
    rw [firstMention, List.flatMap_cons, List.flatMap_cons, List.append_assoc]
    exact hboth

/-! ## Outputs -/

/-- The mark is first mentioned by a header that gives a reason, or nowhere. -/
structure ReasonFirst (heads : List Head) (payload : String) : Prop where
  head : ∀ row, firstMention heads = some row → ∃ l, row = .header l ∧ givesReason l = true
  payload : firstMention heads = none → ¬ Mentions mark payload.toList

/-- A text on one line is the line that a line end closes. -/
theorem line_append {s : List Char} (hs : OnOneLine s) (e : LineEnd) (more : List Char) :
    line (s ++ (e.chars ++ more)) = s := by
  have hkeep : ∀ c ∈ s, (c != '\r' && c != '\n') = true := by
    intro c hc
    obtain ⟨hreturn, hfeed⟩ := hs c hc
    simp [hreturn, hfeed]
  have hend : line (e.chars ++ more) = [] := by
    cases e <;> rfl
  rw [line] at hend ⊢
  rw [List.takeWhile_append_of_pos hkeep, hend, List.append_nil]

/-- The reason in the line of a header is the header's value, unless that is empty. -/
theorem reason?_of_afterFolded? {raw more : List Char} {l : HeaderLine} {e : LineEnd}
    (h : afterFolded? mark raw = some (' ' :: (l.value.toList ++ (e.chars ++ more)))) :
    reason? raw = if l.value = "" then none else some l.value.toList := by
  have honeLine : OnOneLine (' ' :: l.value.toList) := by
    intro c hc
    rcases List.mem_cons.1 hc with rfl | hc
    · decide
    · exact l.value_line c hc
  -- The blank behind the colon is trimmed away, and nothing else, since the value is trimmed.
  have hline : line (' ' :: (l.value.toList ++ (e.chars ++ more))) = ' ' :: l.value.toList :=
    line_append honeLine e more
  have htrim : Text.trim (' ' :: l.value.toList) = l.value.toList := by
    have hblank := Text.trim_append_of_blank_left (a := [' ']) (by decide) l.value.toList
    rw [List.singleton_append] at hblank
    rw [hblank, l.value_trimmed]
  rw [reason?, h]
  dsimp only
  rw [hline, htrim]
  by_cases hempty : l.value = ""
  · rw [hempty]
    rfl
  · have hlist : l.value.toList.isEmpty = false := by simpa using hempty
    rw [hlist, if_neg hempty]
    rfl

/-- The reason that an output gives is the value of the header that mentions the mark first. -/
theorem reason?_printed_iff {heads : List Head} {payload : String}
    (hfirst : ReasonFirst heads payload) (reason : List Char) :
    reason? (printed heads payload).toList = some reason ↔
      ∃ l, firstMention heads = some (.header l) ∧ l.value ≠ "" ∧ reason = l.value.toList := by
  have hfound := found_heads heads payload.toList
  rw [← Answer.toList_printed] at hfound
  cases hmention : firstMention heads with
  | some row =>
    obtain ⟨l, rfl, hgives⟩ := hfirst.head row hmention
    rw [hmention] at hfound
    obtain ⟨e, more, hafter⟩ := hfound l rfl hgives
    rw [reason?_of_afterFolded? hafter]
    constructor
    · intro h
      split at h
      · cases h
      · next hne => exact ⟨l, rfl, hne, (Option.some.inj h).symm⟩
    · rintro ⟨l', hl', hne, rfl⟩
      cases hl'
      rw [if_neg hne]
  | none =>
    -- The search goes on in the payload, which does not mention the mark either.
    rw [hmention] at hfound
    have hsame : afterFolded? mark (printed heads payload).toList =
      afterFolded? mark payload.toList := hfound
    rw [reason?, hsame, afterFolded?_eq_none_iff.2 (hfirst.payload hmention)]
    simp

/-- An answer is denied for the right reason exactly when it gives one that is right for the
token. -/
theorem checkDenied_eq_ok_iff {a : Answer} {token : Option String} :
    a.checkDenied token = .ok () ↔
      ∃ reason, reason? a.raw.toList = some reason ∧
        accepts (token.any fun t => !t.isEmpty) reason = true := by
  rw [Answer.checkDenied]
  cases hreason : reason? a.raw.toList with
  | none => simp
  | some reason =>
    cases haccepts : accepts (token.any fun t => !t.isEmpty) reason <;> simp [haccepts]

/-- **Only a header that gives a reason makes a call denied.** When no other text of the output
mentions the mark before such a header, an answer is verified as denied exactly when the value of
the first such header is right for the token; in particular some head has a header of the reason's
name with a value. -/
theorem check_denied_printed_iff (entry : Entry) (heads : List Head) (payload : String)
    (token : Option String) (hfirst : ReasonFirst heads payload) :
    ((Answer.ofText (printed heads payload)).check entry .denied token = .ok () →
        ∃ h ∈ heads, ∃ l ∈ h.headers,
          Answer.sameName l.name reasonName = true ∧ l.value ≠ "") ∧
      ((Answer.ofText (printed heads payload)).check entry .denied token = .ok () ↔
        ∃ l, firstMention heads = some (.header l) ∧ l.value ≠ "" ∧
          accepts (token.any fun t => !t.isEmpty) l.value.toList = true) := by
  have hiff : (Answer.ofText (printed heads payload)).check entry .denied token = .ok () ↔
      ∃ l, firstMention heads = some (.header l) ∧ l.value ≠ "" ∧
        accepts (token.any fun t => !t.isEmpty) l.value.toList = true := by
    rw [Answer.check, checkDenied_eq_ok_iff, Answer.raw_ofText]
    constructor
    · rintro ⟨reason, hreason, haccepts⟩
      obtain ⟨l, hl, hne, rfl⟩ := (reason?_printed_iff hfirst reason).1 hreason
      exact ⟨l, hl, hne, haccepts⟩
    · rintro ⟨l, hl, hne, haccepts⟩
      exact ⟨_, (reason?_printed_iff hfirst _).2 ⟨l, hl, hne, rfl⟩, haccepts⟩
  refine ⟨fun hok => ?_, hiff⟩
  obtain ⟨l, hl, hvalue, -⟩ := hiff.1 hok
  obtain ⟨l', hl', hgives⟩ := hfirst.head _ hl
  cases hl'
  obtain ⟨h, hh, hrow⟩ := List.mem_flatMap.1 (List.mem_of_find?_eq_some hl)
  have hheader : l ∈ h.headers := by
    rw [rows, List.mem_cons, List.mem_map] at hrow
    rcases hrow with hrow | ⟨l', hl', hrow⟩
    · cases hrow
    · cases hrow
      exact hl'
  exact ⟨h, hh, l, hheader, hgives, hvalue⟩

/-- A header that gives a reason. -/
def reasonHeader : HeaderLine where
  name := "X-Ext-Auth-Reason"
  value := "Not Authorized"

/-- The head of a call that was turned away. -/
def deniedHead : Head where
  version := "HTTP/3"
  status := "403"
  headers := [{ name := "x-ext-auth", value := "-reason:" }, reasonHeader]
  lineEnd := .crlf

/-- The head of a call that was answered. -/
def answeredHead : Head where
  version := "HTTP/3"
  status := "201 Created"
  headers := [{ name := "via", value := "1.1 proxy" }]
  lineEnd := .lf

/-- What a payload says of reasons does not matter behind a header that gives one. -/
theorem check_denied_deniedHead :
    ReasonFirst [answeredHead, deniedHead] "x-ext-auth-reason: credential not found" ∧
      (Answer.ofText (printed [answeredHead, deniedHead]
        "x-ext-auth-reason: credential not found")).check default .denied (some "t") = .ok () ∧
      (Answer.ofText (printed [answeredHead, deniedHead]
        "x-ext-auth-reason: credential not found")).check default .denied none ≠ .ok () := by
  have hmention : firstMention [answeredHead, deniedHead] = some (.header reasonHeader) := by
    rfl
  have hfirst : ReasonFirst [answeredHead, deniedHead]
      "x-ext-auth-reason: credential not found" := by
    refine ⟨fun row hrow => ?_, fun hnone => ?_⟩
    · rw [hmention] at hrow
      cases hrow
      exact ⟨reasonHeader, rfl, by decide +kernel⟩
    · rw [hmention] at hnone
      cases hnone
  have hiff := fun token => (check_denied_printed_iff default [answeredHead, deniedHead]
    "x-ext-auth-reason: credential not found" token hfirst).2
  refine ⟨hfirst, (hiff _).2 ⟨reasonHeader, hmention, by decide, by decide +kernel⟩, fun h => ?_⟩
  obtain ⟨l, hl, -, haccepts⟩ := (hiff none).1 h
  rw [hmention] at hl
  cases hl
  revert haccepts
  decide +kernel

/-- An answered call is verified as denied when its payload mentions the mark. -/
theorem check_denied_answeredHead :
    (∀ h ∈ [answeredHead], ∀ l ∈ h.headers, Answer.sameName l.name reasonName = false) ∧
      (Answer.ofText (printed [answeredHead]
        "\x7b\"text\":\"x-ext-auth-reason: credential not found\"\x7d")).check default .denied none =
          .ok () := by
  refine ⟨by decide +kernel, ?_⟩
  rw [Answer.check, checkDenied_eq_ok_iff, Answer.raw_ofText]
  refine ⟨"credential not found\"\x7d".toList, by decide +kernel, by decide +kernel⟩

end Denial

end ModelProbe
