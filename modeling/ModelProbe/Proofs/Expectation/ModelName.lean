import ModelProbe.Proofs.Pattern.Gap
import ModelProbe.Proofs.SortedMap
import ModelProbe.Proofs.Template.Segments
import ModelProbe.Verdict
/-!
# The model's name in an expected pattern

The pattern that a default query expects may have placeholders for the model's name, and the name
is put there as it is. A name of ordinary characters is found literally: its pattern has the same
tree as the pattern of the escaped name. Other names change what the pattern means, or make it
none.

* `gapped`: the output of a query with gaps for the model's name.
* `ofDefaultQuery_modelName`: a name of ordinary characters means the same as the escaped name.
* `not_ofDefaultQuery_modelName`: a name with a dot or a parenthesis does not.
-/

namespace ModelProbe.Expectation

open Pattern

/-! ## The output of a query -/

/-- The name of the placeholders for the model's name. -/
def modelName : String := "model_name"

theorem get?_ofQuery_modelName (model text : String) :
    (Bindings.ofQuery model text).get? modelName = some model := by
  rw [Bindings.ofQuery, SortedMap.get?_insert, if_neg (by decide), SortedMap.get?_insert,
    if_neg (by decide), SortedMap.get?_insert, if_pos (by decide)]

/-- No other placeholder says anything of the model. -/
theorem get?_ofQuery_of_ne {key : String} (hkey : key ≠ modelName) (model other text : String) :
    (Bindings.ofQuery model text).get? key = (Bindings.ofQuery other text).get? key := by
  rw [Bindings.ofQuery, Bindings.ofQuery]
  have hne : compare key "model_name" ≠ .eq := fun heq => hkey (Std.LawfulEqCmp.eq_of_compare heq)
  simp only [SortedMap.get?_insert, if_neg hne]

/-- The segments of a query's output, filled, with gaps for the model's name. -/
def gapped (text : String) (segments : List Template.Segment) : List (Option Char) :=
  segments.flatMap fun segment =>
    if segment.name? = some modelName then [none]
    else (segment.filled (Bindings.ofQuery "" text)).map some

/-- A segment with the name in its gap is the filled segment. -/
theorem fillGaps_gapped (model text : String) (segments : List Template.Segment) :
    fillGaps model.toList (gapped text segments) =
      segments.flatMap (Template.Segment.filled (Bindings.ofQuery model text)) := by
  induction segments with
  | nil => rfl
  | cons segment segments ih =>
    rw [gapped, List.flatMap_cons, fillGaps_append, ← gapped, ih, List.flatMap_cons]
    congr 1
    split
    · next hname =>
      rw [Template.Segment.filled_of_name? hname, get?_ofQuery_modelName, fillGaps_none,
        fillGaps_nil, List.append_nil, Option.elim_some]
    · next hname =>
      rw [fillGaps_map_some]
      refine Template.Segment.filled_congr fun key hkey => get?_ofQuery_of_ne ?_ _ _ _
      rintro rfl
      exact hname hkey

/-- **The filled output is the output with the name in its gaps.** -/
theorem toList_fill {query : DefaultQuery} {segments : List Template.Segment}
    (hsplits : Template.Splits segments query.output.toList) (model : String) :
    ((Bindings.ofQuery model query.text).fill query.output).toList =
      fillGaps model.toList (gapped query.text segments) := by
  rw [fillGaps_gapped, ← hsplits.fill, Bindings.fill, String.toList_ofList]

/-! ## Escaped names -/

/-- The characters that are special somewhere in a pattern. -/
def metaChars : List Char :=
  ['\\', '.', '+', '*', '?', '(', ')', '|', '[', ']', '{', '}', '^', '$', '#', '&', '-', '~']

/-- The escaped form of a name, which stands for the name in a pattern. -/
def escape (name : String) : String :=
  String.ofList (name.toList.flatMap fun c => if c ∈ metaChars then ['\\', c] else [c])

/-- Every character of the name stands for itself in these modes. -/
def IsOrdinary (name : String) (modes : Modes) : Prop :=
  ∀ c ∈ name.toList, Ordinary modes c

/-- A name of ordinary characters is spelled by itself. -/
theorem spells_self (name : String) : Spells (IsOrdinary name) name.toList name.toList := by
  intro modes hordinary
  rw [IsOrdinary] at hordinary
  revert hordinary
  induction name.toList with
  | nil => exact fun _ => .nil
  | cons c chars ih =>
    intro hordinary
    exact .plain (hordinary c List.mem_cons_self)
      (ih fun d hd => hordinary d (List.mem_cons_of_mem c hd))

/-- The escaped form spells a name where every character that it leaves stands for itself. -/
theorem spells_escape (name : String) :
    Spells (fun modes => ∀ c ∈ name.toList, c ∉ metaChars → Ordinary modes c) name.toList
      (escape name).toList := by
  intro modes hordinary
  rw [escape, String.toList_ofList]
  revert hordinary
  induction name.toList with
  | nil => exact fun _ => .nil
  | cons c chars ih =>
    intro hordinary
    have hrest := ih fun d hd => hordinary d (List.mem_cons_of_mem c hd)
    rw [List.flatMap_cons]
    split
    · next hc =>
      have hall : metaChars.all isEscapable = true := by decide
      exact .escaped (List.all_eq_true.1 hall c hc) hrest
    · next hc => exact .plain (hordinary c List.mem_cons_self hc) hrest

/-! ## The pattern of a name -/

/-- A pattern is expected when the filled output is read, and within the limits of patterns. -/
theorem ofDefaultQuery_of_readsTo {limit : Pattern.Limit} {query : DefaultQuery}
    (hpattern : query.isPattern = true) {model : String} {st : State}
    (hread : ReadsTo ((Bindings.ofQuery model query.text).fill query.output).toList st) :
    ofDefaultQuery limit query model =
      if st.depth ≤ maxDepth && limit st.tree then
        .ok (.pattern ⟨(Bindings.ofQuery model query.text).fill query.output, st.tree⟩)
      else .error (.invalidCatalog .notPattern) := by
  rw [ofDefaultQuery, if_pos hpattern, Pattern.ofText?, Tree.ofChars?_of_readsTo hread]
  by_cases hlimits : (st.depth ≤ maxDepth && limit st.tree) = true
  · rw [if_pos hlimits, if_pos hlimits]
    rfl
  · rw [if_neg hlimits, if_neg hlimits]
    rfl

/-- What is expected of a model comes from a filled output that is read to its end. -/
theorem exists_readsTo_of_ofDefaultQuery {limit : Pattern.Limit} {query : DefaultQuery}
    (hpattern : query.isPattern = true) {model : String} {p : Pattern}
    (h : ofDefaultQuery limit query model = .ok (.pattern p)) :
    ∃ st, ReadsTo ((Bindings.ofQuery model query.text).fill query.output).toList st := by
  rw [ofDefaultQuery, if_pos hpattern, Pattern.ofText?] at h
  cases htree : Tree.ofChars? limit
      ((Bindings.ofQuery model query.text).fill query.output).toList with
  | none =>
    rw [htree] at h
    cases h
  | some tree =>
    obtain ⟨st, hst, -⟩ := exists_readsTo_of_ofChars? htree
    exact ⟨st, hst⟩

/-- **A name of ordinary characters means the same as the escaped name.** The pattern is one with a
letter for a name, and the reader meets each gap as an item. The pattern of the name is then found
in the subjects that the pattern of the escaped name is found in, unless the name makes the pattern
too deep or too large, which the escaped name does as well. -/
theorem ofDefaultQuery_modelName {limit : Pattern.Limit} {query : DefaultQuery}
    {segments : List Template.Segment} {name : String} {p : Pattern}
    (hpattern : query.isPattern = true)
    (hsplits : Template.Splits segments query.output.toList)
    (hletter : ofDefaultQuery limit query "m" = .ok (.pattern p)) (hname : name ≠ "")
    (hmet : Met (IsOrdinary name) .start (gapped query.text segments)) :
    (∃ own escaped : Pattern, ofDefaultQuery limit query name = .ok (.pattern own) ∧
      ofDefaultQuery limit query (escape name) = .ok (.pattern escaped) ∧
      ∀ subject, own.tree.fits subject = escaped.tree.fits subject) ∨
    (∃ st, ReadsTo ((Bindings.ofQuery name query.text).fill query.output).toList st ∧
      (maxDepth < st.depth ∨ limit st.tree = false) ∧
      ofDefaultQuery limit query name = .error (.invalidCatalog .notPattern) ∧
      ofDefaultQuery limit query (escape name) = .error (.invalidCatalog .notPattern)) := by
  obtain ⟨st₀, hread₀⟩ := exists_readsTo_of_ofDefaultQuery hpattern hletter
  rw [toList_fill hsplits] at hread₀
  have hne : name.toList ≠ [] := fun hnil => hname (String.toList_eq_nil_iff.1 hnil)
  obtain ⟨st, hst⟩ := hmet.readsTo hread₀ hne
  have hown := hst _ (spells_self name)
  have hescaped := hst _ fun modes hordinary =>
    spells_escape name modes fun c hc _ => hordinary c hc
  rw [← toList_fill hsplits] at hown hescaped
  rw [ofDefaultQuery_of_readsTo hpattern hown, ofDefaultQuery_of_readsTo hpattern hescaped]
  by_cases hlimits : (st.depth ≤ maxDepth && limit st.tree) = true
  · rw [if_pos hlimits, if_pos hlimits]
    exact .inl ⟨_, _, rfl, rfl, fun _ => rfl⟩
  · rw [if_neg hlimits, if_neg hlimits]
    refine .inr ⟨st, hown, ?_, rfl, rfl⟩
    rw [Bool.and_eq_true, decide_eq_true_eq, not_and_or, Nat.not_le, Bool.not_eq_true] at hlimits
    exact hlimits

/-- Whether the expected pattern is found in the text, when a pattern is expected. -/
def found? (subject : String) : Except Failure Expectation → Option Bool
  | .ok (.pattern p) => some (p.tree.fits subject.toList)
  | _ => none

/-- A query that expects its own text or the model's name. -/
def eitherQuery : DefaultQuery :=
  { text := "x", output := "^$query_text|$model_name$", isPattern := true }

/-- The gap of its output is the last placeholder. -/
theorem splits_eitherQuery :
    Template.Splits [.text ['^'], .bare "query_text".toList, .text ['|'],
      .bare "model_name".toList, .lone] eitherQuery.output.toList := by
  have hbare : ∀ (name : List Char) (c : Char) (rest : List Char), Template.isName name = true →
      Template.isNameChar c = false → (Template.Segment.bare name).Fits (c :: rest) := by
    intro name c rest hname hc
    refine Template.longestName_append_iff.2 ⟨hname, ?_⟩
    rintro d more heq
    obtain ⟨rfl, -⟩ := List.cons.inj heq
    exact hc
  have htext : ∀ (c : Char) (rest : List Char), c ≠ '$' →
      (Template.Segment.text [c]).Fits ('$' :: rest) := fun c rest hc =>
    ⟨List.cons_ne_nil c [], fun h => hc (List.mem_singleton.1 h).symm, .inr ⟨rest, rfl⟩⟩
  have hlone : Template.Segment.lone.Fits [] :=
    ⟨by rintro more ⟨⟩, (Template.placeholder?_eq_none_iff []).1 rfl⟩
  exact .cons (htext '^' _ (by decide)) (.cons (hbare "query_text".toList '|' _ rfl rfl)
    (.cons (htext '|' _ (by decide)) (.cons (hbare "model_name".toList '$' _ rfl rfl)
      (.cons hlone .nil))))

/-- A name with a hyphen is ordinary between the bar and the end. -/
theorem ofDefaultQuery_modelName_eitherQuery :
    ∃ segments p, Template.Splits segments eitherQuery.output.toList ∧
      ofDefaultQuery .estimated eitherQuery "m" = .ok (.pattern p) ∧
      Met (IsOrdinary "a-b") .start (gapped eitherQuery.text segments) ∧
      ∃ own escaped : Pattern, ofDefaultQuery .estimated eitherQuery "a-b" = .ok (.pattern own) ∧
        ofDefaultQuery .estimated eitherQuery (escape "a-b") = .ok (.pattern escaped) ∧
        ∀ subject, own.tree.fits subject = escaped.tree.fits subject := by
  obtain ⟨p, hletter⟩ : ∃ p, ofDefaultQuery .estimated eitherQuery "m" = .ok (.pattern p) := by
    have hfound : found? "m" (ofDefaultQuery .estimated eitherQuery "m") = some true := by cbv
    unfold found? at hfound
    split at hfound
    · next p hp => exact ⟨p, hp⟩
    · cases hfound
  have hgapped : gapped eitherQuery.text [.text ['^'], .bare "query_text".toList, .text ['|'],
      .bare "model_name".toList, .lone] =
      ['^', 'x', '|'].map some ++ none :: ['$'].map some := by cbv
  have hmet : Met (IsOrdinary "a-b") .start (gapped eitherQuery.text
      [.text ['^'], .bare "query_text".toList, .text ['|'], .bare "model_name".toList, .lone]) := by
    rw [hgapped, met_single_iff]
    have hkept : ∀ c, Kept false c := by rintro c ⟨⟩
    refine ⟨_, _, .head (step?_cons (hkept _) rfl rfl) (.head (step?_cons (hkept _) rfl rfl)
      (.head (step?_cons (hkept _) rfl rfl) (.refl _))), skipBlanks_cons (hkept _) _, ?_⟩
    have hall : ("a-b".toList.all fun c => c ∉ specials) = true := by decide
    exact fun c hc => ⟨of_decide_eq_true (List.all_eq_true.1 hall c hc), hkept c⟩
  refine ⟨_, p, splits_eitherQuery, hletter, hmet, ?_⟩
  rcases ofDefaultQuery_modelName rfl splits_eitherQuery hletter (by decide) hmet with
    h | ⟨st, -, -, herror, -⟩
  · exact h
  · have hfound : found? "a-b" (ofDefaultQuery .estimated eitherQuery "a-b") = some true := by cbv
    rw [herror] at hfound
    cases hfound

/-- A query whose pattern has the model's name between its ends. -/
def wholeNameQuery : DefaultQuery :=
  { text := "", output := "^$model_name$", isPattern := true }

/-- A dot in the name stands for any character, and with an open parenthesis there is no pattern;
the escaped names are found as they are. -/
theorem not_ofDefaultQuery_modelName :
    found? "m" (ofDefaultQuery .estimated wholeNameQuery "m") = some true ∧
      found? "axb" (ofDefaultQuery .estimated wholeNameQuery "a.b") = some true ∧
      found? "axb" (ofDefaultQuery .estimated wholeNameQuery (escape "a.b")) = some false ∧
      ofDefaultQuery .estimated wholeNameQuery "a(" = .error (.invalidCatalog .notPattern) ∧
      found? "a(" (ofDefaultQuery .estimated wholeNameQuery (escape "a(")) = some true := by
  refine ⟨?_, ?_, ?_, ?_, ?_⟩ <;> cbv

end ModelProbe.Expectation
