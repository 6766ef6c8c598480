import Mathlib.Data.List.Infix
import ModelProbe.Proofs.SortedMap
import ModelProbe.Proofs.Template.Segments
/-!
# Filling in several passes

A pass leaves the placeholders that it has no value for, so that a later pass may fill them. The
later pass reads the template anew, with values next to the placeholders that were left. It finds
the same placeholders when each of them stands apart from what follows, and when the values of the
first pass bring no `$` along.

* `Refillable`: every `$` of the template begins a placeholder that stands apart.
* `fill_fill_of_refillable`: two passes are one pass with the bindings of both.
-/

namespace ModelProbe.Template

/-! ## Placeholders that stand apart -/

/-- After a `$`, the text begins a placeholder that ends at the same place whatever a pass makes of
the text behind it: a name in braces, or the longest name there is when no further `$` follows. -/
inductive StandsApart : List Char → Prop
  | braced {name : List Char} (isName : isName name = true) (rest : List Char) :
    StandsApart ('{' :: (name ++ '}' :: rest))
  | bare {name rest : List Char} (longest : LongestName name (name ++ rest))
      (apart : rest.head? ≠ some '$') : StandsApart (name ++ rest)

/-- A name does not begin with a brace. -/
theorem head?_append_ne_brace {name : List Char} (h : isName name = true) (rest : List Char) :
    (name ++ rest).head? ≠ some '{' := by
  obtain ⟨c, cs, rfl⟩ := List.exists_cons_of_ne_nil (ne_nil_of_isName h)
  intro hbrace
  obtain rfl : c = '{' := Option.some.inj hbrace
  have hmem : '{' ∉ '{' :: cs := not_mem_of_isName h (by decide)
  exact hmem List.mem_cons_self

/-- A placeholder stands apart when it has braces or is followed by no `$`. -/
theorem standsApart_iff {after : List Char} :
    StandsApart after ↔ ∃ found, placeholder? after = some found ∧
      (after.head? = some '{' ∨ found.2.head? ≠ some '$') := by
  constructor
  · rintro (⟨hname, rest⟩ | ⟨hlongest, hapart⟩)
    · exact ⟨_, placeholder?_braced hname rest, .inl rfl⟩
    · exact ⟨_, placeholder?_bare hlongest, .inr hapart⟩
  · rintro ⟨found, hfound, hend⟩
    rcases placeholder?_eq_some hfound with ⟨hname, rfl⟩ | ⟨rfl, hlongest⟩
    · exact .braced hname _
    · exact .bare hlongest (hend.resolve_left (head?_append_ne_brace hlongest.isName _))

instance instDecidableStandsApart (after : List Char) : Decidable (StandsApart after) :=
  decidable_of_iff ((placeholder? after).any fun found =>
      after.head? = some '{' || found.2.head? ≠ some '$') <| by
    rw [standsApart_iff, Option.any_eq_true]
    simp only [Bool.or_eq_true, decide_eq_true_eq]

/-- Every `$` of the template begins a placeholder that stands apart. -/
def Refillable (t : List Char) : Prop := ∀ after, '$' :: after <:+ t → StandsApart after

instance instDecidableRefillable (t : List Char) : Decidable (Refillable t) :=
  decidable_of_iff (∀ s ∈ t.tails, s.head? = some '$' → StandsApart s.tail) <| by
    simp only [List.mem_tails]
    constructor
    · exact fun h after hsuffix => h _ hsuffix rfl
    · intro h s hsuffix hhead
      obtain ⟨after, rfl⟩ := List.head?_eq_some_iff.1 hhead
      exact h after hsuffix

-- A value in place of the second placeholder would go on with the first one's name.
example : ¬ Refillable "$model_name$query_text".toList := by decide

/-- What stands behind a piece of such a template is such a template. -/
theorem Refillable.of_append {s t : List Char} (h : Refillable (s ++ t)) : Refillable t :=
  fun after hsuffix => h after (hsuffix.trans (List.suffix_append s t))

/-! ## The segments of the second pass -/

/-- The template behind a segment may be exchanged: with whatever begins alike the segment is still
the first one. -/
theorem Segment.Fits.congr_head? {segment : Segment} {name : String} {rest other : List Char}
    (h : segment.Fits rest) (hname : segment.name? = some name)
    (hhead : (∃ chars, segment = .bare chars) → other.head? = rest.head?) :
    segment.Fits other := by
  cases segment with
  | braced chars => exact h
  | bare chars =>
    obtain ⟨hchars, hstop⟩ := longestName_append_iff.1 h
    refine longestName_append_iff.2 ⟨hchars, ?_⟩
    rintro c more rfl
    obtain ⟨tail, hrest⟩ := List.head?_eq_some_iff.1 (hhead ⟨chars, rfl⟩).symm
    exact hstop c tail hrest
  | _ => cases hname

/-- A template that does not begin with `$` keeps its first character. -/
theorem head?_fill (vars : Bindings) {t : List Char} (h : t.head? ≠ some '$') :
    (fill vars t).head? = t.head? := by
  cases t with
  | nil => rw [fill]
  | cons c cs =>
    have hc : c ≠ '$' := fun hd => h (congrArg some hd)
    rw [fill_of_ne vars hc, List.head?_cons, List.head?_cons]

/-- Behind a bare placeholder that stands apart there is no `$`. -/
theorem head?_ne_of_bare {chars rest : List Char} (hfits : (Segment.bare chars).Fits rest)
    (hrefill : Refillable ((Segment.bare chars).chars ++ rest)) : rest.head? ≠ some '$' := by
  obtain ⟨found, hfound, hend⟩ := standsApart_iff.1 (hrefill (chars ++ rest) List.suffix_rfl)
  rw [(reads_bare hfits).placeholder] at hfound
  obtain rfl := Option.some.inj hfound
  exact hend.resolve_left (head?_append_ne_brace hfits.isName rest)

/-- **A segment in the second pass.** What the first pass made of a first segment, the second pass
makes into what one pass with the bindings of both would have made of it. -/
theorem fill_filled_append {first : Bindings} (hfirst : first.All fun value => '$' ∉ value.toList)
    (second : Bindings) {segment : Segment} {rest : List Char} (hfits : segment.Fits rest)
    (hrefill : Refillable (segment.chars ++ rest)) :
    fill second (segment.filled first ++ fill first rest) =
      segment.filled (second.union first) ++ fill second (fill first rest) := by
  cases hname : segment.name? with
  | some name =>
    have hunion : (second.union first).get? name = (first.get? name).or (second.get? name) := by
      rw [SortedMap.union, SortedMap.get?_mergeWith]
      cases first.get? name <;> cases second.get? name <;> rfl
    rw [Segment.filled_of_name? hname, Segment.filled_of_name? hname, hunion]
    cases hvalue : first.get? name with
    | some value => exact fill_append_of_plain second (SortedMap.all_iff.1 hfirst name value hvalue) _
    | none =>
      -- The placeholder is still there, and the second pass has to find it again.
      have hagain : segment.Fits (fill first rest) := by
        refine hfits.congr_head? hname ?_
        rintro ⟨chars, rfl⟩
        exact head?_fill first (head?_ne_of_bare hfits hrefill)
      rw [Option.elim_none, Option.none_or, fill_chars_append second hagain,
        Segment.filled_of_name? hname]
  | none =>
    cases segment with
    | text s => exact fill_append_of_plain second hfits.2.1 _
    | dollars =>
      obtain ⟨found, hfound, -⟩ := standsApart_iff.1 (hrefill _ List.suffix_rfl)
      cases hfound
    | lone =>
      obtain ⟨found, hfound, -⟩ := standsApart_iff.1 (hrefill rest List.suffix_rfl)
      rw [(placeholder?_eq_none_iff rest).2 hfits.2] at hfound
      cases hfound
    | braced chars => cases hname
    | bare chars => cases hname

/-- A row of segments in two passes. -/
theorem Splits.fill_fill {first : Bindings} (hfirst : first.All fun value => '$' ∉ value.toList)
    (second : Bindings) {segments : List Segment} {t : List Char} (h : Splits segments t)
    (hrefill : Refillable t) :
    Template.fill second (Template.fill first t) = Template.fill (second.union first) t := by
  induction h with
  | nil => rw [Template.fill, Template.fill, Template.fill]
  | @cons segment segments rest fits _ ih =>
    rw [fill_chars_append first fits, fill_filled_append hfirst second fits hrefill,
      ih hrefill.of_append, fill_chars_append _ fits]

/-- **Filling in two passes.** When every `$` of a template begins a placeholder that stands apart
and the values of the first pass have no `$`, a second pass gives what one pass gives with the
bindings of both, those of the first pass counting where both have a name. So the first pass once
more changes nothing. -/
theorem fill_fill_of_refillable {template : String} (hrefill : Refillable template.toList)
    {first : Bindings} (hfirst : first.All fun value => '$' ∉ value.toList) (second : Bindings) :
    second.fill (first.fill template) = Bindings.fill (second.union first) template ∧
      first.fill (first.fill template) = first.fill template := by
  obtain ⟨segments, hsplits⟩ := exists_splits template.toList
  have hpasses : ∀ later : Bindings,
      later.fill (first.fill template) = Bindings.fill (later.union first) template := fun later => by
    simp only [Bindings.fill, String.toList_ofList, hsplits.fill_fill hfirst later hrefill]
  have hself : first.union first = first :=
    have : Std.IdempotentOp fun _ new : String => new := ⟨fun _ => rfl⟩
    SortedMap.mergeWith_self _ first
  exact ⟨hpasses second, by rw [hpasses first, hself]⟩

/-- A prompt with a model and a query, and with a placeholder that nobody fills. -/
def promptTemplate : String := "mm-model-id: $model_name; \x7b$\x7bquery_text\x7d\x7d $other"

/-- What is known in the first pass: the model. -/
def modelBindings : Bindings := SortedMap.empty.insert "model_name" "granite\x7b3\x7d"

/-- What is known in the second pass: the query, which reads like a placeholder. -/
def textBindings : Bindings := SortedMap.empty.insert "query_text" "$model_name"

theorem fill_fill_promptTemplate :
    Refillable promptTemplate.toList ∧
      modelBindings.All (fun value => '$' ∉ value.toList) ∧
      textBindings.fill (modelBindings.fill promptTemplate) =
        Bindings.fill (textBindings.union modelBindings) promptTemplate ∧
      modelBindings.fill (modelBindings.fill promptTemplate) =
        modelBindings.fill promptTemplate := by
  have hrefill : Refillable promptTemplate.toList := by decide +kernel
  have hvalues : modelBindings.All fun value => '$' ∉ value.toList := by decide +kernel
  exact ⟨hrefill, hvalues, fill_fill_of_refillable hrefill hvalues textBindings⟩

end ModelProbe.Template
