import Mathlib.Data.List.Basic
import Mathlib.Data.List.TakeWhile
import ModelProbe.Proofs.Text.Trimming
import ModelProbe.Template
/-!
# The segments of a template

A template is read from left to right as a row of segments: a run of text, `$$`, a placeholder in
braces or a bare one, or a `$` that begins none of these. A template can be read so in one way
only. It is filled segment by segment, so that nothing that a value brings along is read again.

* `Splits`: the segments make up the template, each of them as long as it can be.
* `Splits.unique`, `exists_splits`: a template has exactly one row of segments.
* `fill_splits`: the filled template is the row of the filled segments.
-/

namespace ModelProbe.Template

/-! ## Names -/

theorem isNameChar_of_isNameStart {c : Char} (h : isNameStart c = true) : isNameChar c = true := by
  unfold isNameStart at h
  unfold isNameChar Char.isAlphanum
  rcases Bool.or_eq_true_iff.1 h with h | h <;> simp [h]

/-- Every character of a name may go on a name. -/
theorem isNameChar_of_mem {name : List Char} (h : isName name = true) {c : Char} (hc : c ∈ name) :
    isNameChar c = true := by
  cases name with
  | nil => cases hc
  | cons d name =>
    rw [isName, Bool.and_eq_true] at h
    rcases List.mem_cons.1 hc with rfl | hc
    · exact isNameChar_of_isNameStart h.1
    · exact List.all_eq_true.1 h.2 c hc

/-- A character that may not go on a name is not in one. -/
theorem not_mem_of_isName {name : List Char} (h : isName name = true) {c : Char}
    (hc : isNameChar c = false) : c ∉ name := by
  intro hmem
  rw [isNameChar_of_mem h hmem] at hc
  cases hc

theorem ne_nil_of_isName {name : List Char} (h : isName name = true) : name ≠ [] := by
  rintro rfl
  cases h

/-- The name is the longest one that the text begins with. -/
structure LongestName (name s : List Char) : Prop where
  isName : isName name = true
  begins : name <+: s
  longest : ∀ other, Template.isName other = true → other <+: s → other.length ≤ name.length

/-- A name followed by a character that may go on it is a name. -/
theorem isName_concat {name : List Char} (h : isName name = true) {c : Char}
    (hc : isNameChar c = true) : isName (name ++ [c]) = true := by
  cases name with
  | nil => cases h
  | cons d name =>
    rw [isName, Bool.and_eq_true] at h
    rw [List.cons_append, isName, List.all_append, h.1, h.2]
    simp [hc]

/-- A name is the longest one exactly when no character follows that may go on it. -/
theorem longestName_append_iff {name rest : List Char} :
    LongestName name (name ++ rest) ↔
      isName name = true ∧ ∀ c more, rest = c :: more → isNameChar c = false := by
  constructor
  · intro h
    refine ⟨h.isName, ?_⟩
    rintro c more rfl
    cases hc : isNameChar c with
    | false => rfl
    | true =>
      have hle := h.longest (name ++ [c]) (isName_concat h.isName hc) ⟨more, by simp⟩
      rw [List.length_append] at hle
      exact absurd hle (Nat.not_succ_le_self _)
  · rintro ⟨hname, hstop⟩
    refine ⟨hname, List.prefix_append name rest, fun other hother hbegins => ?_⟩
    apply Nat.le_of_not_lt
    intro hlonger
    -- The longer name would have the first character of the rest.
    obtain ⟨more, rfl⟩ : name <+: other :=
      List.prefix_of_prefix_length_le (List.prefix_append name rest) hbegins (by omega)
    cases more with
    | nil => simp at hlonger
    | cons c more =>
      obtain ⟨after, hafter⟩ := (List.prefix_append_right_inj name).1 hbegins
      have hc := isNameChar_of_mem hother (c := c) (by simp)
      rw [hstop c (more ++ after) hafter.symm] at hc
      cases hc

/-- The longest name is the one that is taken. -/
theorem takeName_of_longestName {name rest : List Char} (h : LongestName name (name ++ rest)) :
    takeName (name ++ rest) = (name, rest) := by
  obtain ⟨hname, hstop⟩ := longestName_append_iff.1 h
  cases name with
  | nil => cases hname
  | cons c name =>
    rw [isName, Bool.and_eq_true] at hname
    have hall : ∀ d ∈ name, isNameChar d = true := List.all_eq_true.1 hname.2
    rw [List.cons_append, takeName, if_pos hname.1, List.takeWhile_append_of_pos hall,
      List.dropWhile_append_of_pos hall]
    cases rest with
    | nil => simp
    | cons d rest => simp [hstop d rest rfl]

/-- What is taken is the longest name, unless there is none. -/
theorem longestName_of_takeName {s name rest : List Char} (h : takeName s = (name, rest))
    (hne : name ≠ []) : s = name ++ rest ∧ LongestName name (name ++ rest) := by
  cases s with
  | nil =>
    obtain ⟨rfl, rfl⟩ := Prod.mk.inj h
    exact absurd rfl hne
  | cons c cs =>
    rw [takeName] at h
    split at h
    · next hc =>
      obtain ⟨rfl, rfl⟩ := Prod.mk.inj h
      refine ⟨by rw [List.cons_append, List.takeWhile_append_dropWhile], ?_⟩
      rw [longestName_append_iff, isName, hc, Bool.true_and]
      refine ⟨List.all_takeWhile, fun d more hmore => ?_⟩
      have hhead := List.head?_dropWhile_not isNameChar cs
      rw [hmore] at hhead
      simpa using hhead
    · obtain ⟨rfl, rfl⟩ := Prod.mk.inj h
      exact absurd rfl hne

/-! ## Segments -/

/-- A piece of a template that is filled by itself. -/
inductive Segment
  /-- Text without `$`. -/
  | text (chars : List Char)
  /-- `$$`. -/
  | dollars
  /-- `${name}`. -/
  | braced (name : List Char)
  /-- `$name`. -/
  | bare (name : List Char)
  /-- A `$` that begins none of these. -/
  | lone
  deriving DecidableEq

namespace Segment

/-- The segment as it stands in a template. -/
def chars : Segment → List Char
  | text s => s
  | dollars => ['$', '$']
  | braced name => '$' :: '{' :: (name ++ ['}'])
  | bare name => '$' :: name
  | lone => ['$']

/-- The name that a placeholder has. -/
def name? : Segment → Option String
  | braced name | bare name => some (String.ofList name)
  | _ => none

/-- What the segment is filled to: a placeholder without a value stays. -/
def filled (vars : Bindings) : Segment → List Char
  | text s => s
  | dollars => ['$']
  | braced name => (vars.get? (String.ofList name)).elim (braced name).chars String.toList
  | bare name => (vars.get? (String.ofList name)).elim (bare name).chars String.toList
  | lone => ['$']

/-- The segment is the first one of a template that goes on with the rest: it has its form, and it
could not be longer or another one. -/
def Fits : Segment → List Char → Prop
  | text s, rest => s ≠ [] ∧ '$' ∉ s ∧ (rest = [] ∨ ∃ more, rest = '$' :: more)
  | dollars, _ => True
  | braced name, _ => isName name = true
  | bare name, rest => LongestName name (name ++ rest)
  -- Neither `$$` nor a placeholder begins here.
  | lone, rest => (∀ more, rest ≠ '$' :: more) ∧
      ∀ name, isName name = true → ¬ name <+: rest ∧ ¬ '{' :: (name ++ ['}']) <+: rest

end Segment

/-- The segments make up the template, each of them being the first of what is left. -/
inductive Splits : List Segment → List Char → Prop
  | nil : Splits [] []
  | cons {segment : Segment} {segments : List Segment} {rest : List Char}
      (fits : segment.Fits rest) (splits : Splits segments rest) :
    Splits (segment :: segments) (segment.chars ++ rest)

/-! ## Placeholders -/

/-- The text up to the first closing brace, when it is a name, is a placeholder's. -/
theorem placeholder?_braced {name : List Char} (h : isName name = true) (rest : List Char) :
    placeholder? ('{' :: (name ++ '}' :: rest)) = some (name, rest) := by
  have hclose : '}' ∉ name := not_mem_of_isName h (by decide)
  rw [placeholder?, Text.splitFirst?_append hclose]
  dsimp only
  rw [if_pos h]

/-- A text that begins with a name is read by taking it. -/
theorem placeholder?_of_isNameStart {c : Char} (hc : isNameStart c = true) (cs : List Char) :
    placeholder? (c :: cs) = some (takeName (c :: cs)) := by
  unfold placeholder?
  split
  · next hbrace =>
    obtain ⟨rfl, -⟩ := List.cons.inj hbrace
    cases hc
  · rw [takeName, if_pos hc]

/-- The longest name is a placeholder's. -/
theorem placeholder?_bare {name rest : List Char} (h : LongestName name (name ++ rest)) :
    placeholder? (name ++ rest) = some (name, rest) := by
  obtain ⟨c, cs, rfl⟩ := List.exists_cons_of_ne_nil (ne_nil_of_isName h.isName)
  have hc : isNameStart c = true := (Bool.and_eq_true_iff.1 h.isName).1
  rw [← takeName_of_longestName h]
  exact placeholder?_of_isNameStart hc _

/-- A placeholder has its name in braces, or the longest name there is. -/
theorem placeholder?_eq_some {after name rest : List Char}
    (h : placeholder? after = some (name, rest)) :
    (isName name = true ∧ after = '{' :: (name ++ '}' :: rest)) ∨
      (after = name ++ rest ∧ LongestName name (name ++ rest)) := by
  unfold placeholder? at h
  split at h
  · next inner =>
    left
    split at h
    · next hsplit =>
      split at h
      · next hname =>
        obtain ⟨rfl, rfl⟩ := Prod.mk.inj (Option.some.inj h)
        exact ⟨hname, by rw [(Text.splitFirst?_eq_some hsplit).1]⟩
      · cases h
    · cases h
  · right
    split at h
    · cases h
    · next hne htake =>
      obtain ⟨rfl, rfl⟩ := Prod.mk.inj (Option.some.inj h)
      exact longestName_of_takeName htake hne

/-- There is no placeholder exactly when the text begins with no name, with or without braces. -/
theorem placeholder?_eq_none_iff (after : List Char) :
    placeholder? after = none ↔ ∀ name, isName name = true →
      ¬ name <+: after ∧ ¬ '{' :: (name ++ ['}']) <+: after := by
  constructor
  · intro h name hname
    constructor
    · rintro ⟨rest, rfl⟩
      obtain ⟨c, cs, rfl⟩ := List.exists_cons_of_ne_nil (ne_nil_of_isName hname)
      rw [List.cons_append, placeholder?_of_isNameStart (Bool.and_eq_true_iff.1 hname).1] at h
      cases h
    · rintro ⟨rest, rfl⟩
      have hbraced := placeholder?_braced hname rest
      rw [List.cons_append, List.append_assoc, List.singleton_append, hbraced] at h
      cases h
  · intro h
    cases hfound : placeholder? after with
    | none => rfl
    | some found =>
      exfalso
      rcases placeholder?_eq_some hfound with ⟨hname, rfl⟩ | ⟨rfl, hlongest⟩
      · exact (h _ hname).2 ⟨found.2, by simp⟩
      · exact (h _ hlongest.isName).1 (List.prefix_append _ _)

/-! ## The first segment -/

/-- The first segment of a template, and the rest. -/
def first? : List Char → Option (Segment × List Char)
  | [] => none
  | '$' :: '$' :: rest => some (.dollars, rest)
  | '$' :: after =>
    match placeholder? after with
    | some (name, rest) =>
      some (if after.head? = some '{' then .braced name else .bare name, rest)
    | none => some (.lone, after)
  | c :: cs => some (.text ((c :: cs).takeWhile (· ≠ '$')), (c :: cs).dropWhile (· ≠ '$'))

theorem first?_of_ne {c : Char} (hc : c ≠ '$') (cs : List Char) :
    first? (c :: cs) =
      some (.text ((c :: cs).takeWhile (· ≠ '$')), (c :: cs).dropWhile (· ≠ '$')) := by
  rw [first?]
  · rintro rest rfl
    exact absurd rfl hc
  · exact hc

theorem first?_placeholder {after name rest : List Char} (hdollar : ∀ more, after ≠ '$' :: more)
    (h : placeholder? after = some (name, rest)) : first? ('$' :: after) =
      some (if after.head? = some '{' then .braced name else .bare name, rest) := by
  rw [first?, h]
  exact hdollar

theorem first?_lone {after : List Char} (hdollar : ∀ more, after ≠ '$' :: more)
    (h : placeholder? after = none) : first? ('$' :: after) = some (.lone, after) := by
  rw [first?, h]
  exact hdollar

/-- A placeholder without its `$`: text that has none and is read as the placeholder. -/
structure Reads (form name rest : List Char) : Prop where
  placeholder : placeholder? (form ++ rest) = some (name, rest)
  plain : '$' ∉ form
  not_dollar : ∀ more, form ++ rest ≠ '$' :: more

/-- A text does not begin with `$` when it begins with a piece that has none. -/
theorem append_ne_dollar_cons {form : List Char} (hne : form ≠ []) (hplain : '$' ∉ form)
    (rest more : List Char) : form ++ rest ≠ '$' :: more := by
  obtain ⟨c, cs, rfl⟩ := List.exists_cons_of_ne_nil hne
  intro h
  obtain ⟨rfl, -⟩ := List.cons.inj h
  exact hplain (by simp)

/-- What stands in braces is read as a placeholder. -/
theorem reads_braced {name : List Char} (h : isName name = true) (rest : List Char) :
    Reads ('{' :: (name ++ ['}'])) name rest := by
  have hplain : '$' ∉ '{' :: (name ++ ['}']) := by
    have hname : '$' ∉ name := not_mem_of_isName h (by decide)
    simp [hname]
  refine ⟨?_, hplain, append_ne_dollar_cons (by simp) hplain rest⟩
  rw [List.cons_append, List.append_assoc, List.singleton_append]
  exact placeholder?_braced h rest

/-- The longest name is read as a placeholder. -/
theorem reads_bare {name rest : List Char} (h : LongestName name (name ++ rest)) :
    Reads name name rest :=
  have hplain : '$' ∉ name := not_mem_of_isName h.isName (by decide)
  ⟨placeholder?_bare h, hplain, append_ne_dollar_cons (ne_nil_of_isName h.isName) hplain rest⟩

/-- **A first segment is read as such.** -/
theorem first?_chars_append {segment : Segment} {rest : List Char} (h : segment.Fits rest) :
    first? (segment.chars ++ rest) = some (segment, rest) := by
  cases segment with
  | text s =>
    obtain ⟨hne, hplain, hrest⟩ := h
    have hall : ∀ c ∈ s, decide (c ≠ '$') = true := fun c hc =>
      decide_eq_true fun hd => hplain (hd ▸ hc)
    obtain ⟨c, cs, rfl⟩ := List.exists_cons_of_ne_nil hne
    have hc : c ≠ '$' := fun hd => hplain (hd ▸ List.mem_cons_self)
    show first? (c :: (cs ++ rest)) = some (.text (c :: cs), rest)
    rw [first?_of_ne hc, ← List.cons_append, List.takeWhile_append_of_pos hall,
      List.dropWhile_append_of_pos hall]
    rcases hrest with rfl | ⟨more, rfl⟩ <;> simp
  | dollars => rfl
  | braced name =>
    have hread := reads_braced h rest
    exact first?_placeholder hread.not_dollar hread.placeholder
  | bare name =>
    have hread := reads_bare h
    show first? ('$' :: (name ++ rest)) = some (.bare name, rest)
    rw [first?_placeholder hread.not_dollar hread.placeholder, if_neg]
    obtain ⟨c, cs, rfl⟩ := List.exists_cons_of_ne_nil (ne_nil_of_isName h.isName)
    intro hbrace
    obtain rfl := Option.some.inj hbrace
    have hmem : '{' ∉ '{' :: cs := not_mem_of_isName h.isName (by decide)
    exact hmem (by simp)
  | lone => exact first?_lone h.1 ((placeholder?_eq_none_iff rest).2 h.2)

-- The text up to the next brace is no name, so the `$` begins nothing.
example : first? ['$', '{', 'a', '$', 'b', '}'] = some (.lone, ['{', 'a', '$', 'b', '}']) := by
  decide

/-- The text before the first `$` is a first segment. -/
theorem fits_takeWhile {c : Char} (hc : c ≠ '$') (cs : List Char) :
    (Segment.text ((c :: cs).takeWhile (· ≠ '$'))).Fits ((c :: cs).dropWhile (· ≠ '$')) := by
  refine ⟨by simp [hc], fun hmem => ?_, ?_⟩
  · simpa using List.mem_takeWhile_imp hmem
  · cases hdrop : (c :: cs).dropWhile (· ≠ '$') with
    | nil => exact .inl rfl
    | cons d more =>
      have hhead := List.head?_dropWhile_not (· ≠ '$') (c :: cs)
      rw [hdrop] at hhead
      obtain rfl : d = '$' := by simpa using hhead
      exact .inr ⟨more, rfl⟩

/-- A template that is not empty has a first segment. -/
theorem exists_fits {t : List Char} (h : t ≠ []) :
    ∃ segment : Segment, ∃ rest, t = segment.chars ++ rest ∧ segment.Fits rest := by
  obtain ⟨c, cs, rfl⟩ := List.exists_cons_of_ne_nil h
  by_cases hc : c = '$'
  · subst hc
    by_cases hdollar : ∃ more, cs = '$' :: more
    · obtain ⟨rest, rfl⟩ := hdollar
      exact ⟨.dollars, rest, rfl, trivial⟩
    · rw [not_exists] at hdollar
      cases hfound : placeholder? cs with
      | none => exact ⟨.lone, cs, rfl, hdollar, (placeholder?_eq_none_iff cs).1 hfound⟩
      | some found =>
        rcases placeholder?_eq_some hfound with ⟨hname, rfl⟩ | ⟨rfl, hlongest⟩
        · exact ⟨.braced found.1, found.2, by simp [Segment.chars], hname⟩
        · exact ⟨.bare found.1, found.2, rfl, hlongest⟩
  · have hsplit := List.takeWhile_append_dropWhile (p := (· ≠ '$')) (l := c :: cs)
    exact ⟨.text _, _, hsplit.symm, fits_takeWhile hc cs⟩

/-! ## Rows of segments -/

/-- A first segment has a character. -/
theorem Segment.Fits.chars_ne_nil {segment : Segment} {rest : List Char}
    (h : segment.Fits rest) : segment.chars ≠ [] := by
  cases segment with
  | text s => exact h.1
  | _ => exact List.cons_ne_nil _ _

/-- Every template is a row of segments. -/
theorem exists_splits (t : List Char) : ∃ segments, Splits segments t := by
  -- By the length of the template, which a first segment shortens.
  induction hlength : t.length using Nat.strongRecOn generalizing t with
  | ind n ih =>
    subst hlength
    by_cases ht : t = []
    · subst ht
      exact ⟨[], .nil⟩
    · obtain ⟨segment, rest, rfl, hfits⟩ := exists_fits ht
      have hpos := List.length_pos_iff.2 hfits.chars_ne_nil
      have hshorter : rest.length < (segment.chars ++ rest).length := by
        rw [List.length_append]
        omega
      obtain ⟨segments, hsegments⟩ := ih rest.length hshorter rest rfl
      exact ⟨segment :: segments, .cons hfits hsegments⟩

/-- A template is a row of segments in one way only. -/
theorem Splits.unique {segments others : List Segment} {t : List Char} (h : Splits segments t)
    (hothers : Splits others t) : others = segments := by
  induction h generalizing others with
  | nil =>
    generalize hnil : ([] : List Char) = t at hothers
    cases hothers with
    | nil => rfl
    | cons fits _ => exact absurd (List.append_eq_nil_iff.1 hnil.symm).1 fits.chars_ne_nil
  | @cons segment segments rest fits _ ih =>
    generalize ht : segment.chars ++ rest = t at hothers
    cases hothers with
    | nil => exact absurd (List.append_eq_nil_iff.1 ht).1 fits.chars_ne_nil
    | cons fits' splits' =>
      have hfirst := first?_chars_append fits
      rw [ht, first?_chars_append fits'] at hfirst
      obtain ⟨rfl, rfl⟩ := Prod.mk.inj (Option.some.inj hfirst)
      rw [ih splits']

/-- The names of the placeholders are names. -/
theorem Splits.isName {segments : List Segment} {t : List Char} (h : Splits segments t) :
    ∀ segment ∈ segments, ∀ name, segment.name? = some name → isName name.toList = true := by
  induction h with
  | nil =>
    intro segment hsegment
    cases hsegment
  | @cons first segments rest fits _ ih =>
    intro segment hsegment name hname
    rcases List.mem_cons.1 hsegment with rfl | hsegment
    · cases segment with
      | braced chars =>
        obtain rfl := Option.some.inj hname
        rw [String.toList_ofList]
        exact fits
      | bare chars =>
        obtain rfl := Option.some.inj hname
        rw [String.toList_ofList]
        exact fits.isName
      | _ => cases hname
    · exact ih segment hsegment name hname

/-! ## Filling -/

theorem fill_of_ne (vars : Bindings) {c : Char} (hc : c ≠ '$') (cs : List Char) :
    fill vars (c :: cs) = c :: fill vars cs := by
  rw [fill]
  · rintro rest rfl
    exact absurd rfl hc
  · exact hc

theorem fill_placeholder (vars : Bindings) {after name rest : List Char}
    (hdollar : ∀ more, after ≠ '$' :: more) (h : placeholder? after = some (name, rest)) :
    fill vars ('$' :: after) = (vars.get? (String.ofList name)).elim ('$' :: fill vars after)
      fun value => value.toList ++ fill vars rest := by
  rw [fill, h]
  · dsimp only
    cases vars.get? (String.ofList name) <;> rfl
  · exact hdollar

theorem fill_lone (vars : Bindings) {after : List Char} (hdollar : ∀ more, after ≠ '$' :: more)
    (h : placeholder? after = none) : fill vars ('$' :: after) = '$' :: fill vars after := by
  rw [fill, h]
  exact hdollar

/-- Text without `$` stays. -/
theorem fill_append_of_plain (vars : Bindings) {s : List Char} (hs : '$' ∉ s) (rest : List Char) :
    fill vars (s ++ rest) = s ++ fill vars rest := by
  induction s with
  | nil => rfl
  | cons c s ih =>
    rw [List.mem_cons, not_or] at hs
    rw [List.cons_append, fill_of_ne vars (Ne.symm hs.1), ih hs.2, List.cons_append]

/-- A placeholder becomes its value, or stays. -/
theorem Reads.fill (vars : Bindings) {form name rest : List Char} (h : Reads form name rest) :
    fill vars ('$' :: (form ++ rest)) =
      (vars.get? (String.ofList name)).elim ('$' :: form) String.toList ++ fill vars rest := by
  rw [fill_placeholder vars h.not_dollar h.placeholder]
  cases vars.get? (String.ofList name) with
  | none => rw [Option.elim_none, Option.elim_none, fill_append_of_plain vars h.plain]; rfl
  | some value => rfl

/-- **Filling goes on after the first segment.** -/
theorem fill_chars_append (vars : Bindings) {segment : Segment} {rest : List Char}
    (h : segment.Fits rest) :
    fill vars (segment.chars ++ rest) = segment.filled vars ++ fill vars rest := by
  cases segment with
  | text s => exact fill_append_of_plain vars h.2.1 rest
  | dollars =>
    show fill vars ('$' :: '$' :: rest) = '$' :: fill vars rest
    rw [fill]
  | braced name => exact (reads_braced h rest).fill vars
  | bare name => exact (reads_bare h).fill vars
  | lone => exact fill_lone vars h.1 ((placeholder?_eq_none_iff rest).2 h.2)

/-- A row of segments is filled segment by segment. -/
theorem Splits.fill (vars : Bindings) {segments : List Segment} {t : List Char}
    (h : Splits segments t) : fill vars t = segments.flatMap (Segment.filled vars) := by
  induction h with
  | nil =>
    rw [Template.fill]
    rfl
  | cons fits _ ih => rw [fill_chars_append vars fits, ih, List.flatMap_cons]

/-- A placeholder is filled to its value, or to itself. -/
theorem Segment.filled_of_name? {segment : Segment} {name : String}
    (h : segment.name? = some name) (vars : Bindings) :
    segment.filled vars = (vars.get? name).elim segment.chars String.toList := by
  cases segment with
  | braced chars =>
    obtain rfl := Option.some.inj h
    rfl
  | bare chars =>
    obtain rfl := Option.some.inj h
    rfl
  | _ => cases h

/-- A segment is filled alike when its placeholder's name is bound alike. -/
theorem Segment.filled_congr {vars others : Bindings} {segment : Segment}
    (h : ∀ name, segment.name? = some name → vars.get? name = others.get? name) :
    segment.filled vars = segment.filled others := by
  cases hname : segment.name? with
  | some name => rw [filled_of_name? hname, filled_of_name? hname, h name hname]
  | none =>
    cases segment with
    | braced _ | bare _ => cases hname
    | _ => rfl

/-- **Filling a template.** A template is a row of segments in exactly one way, and the filled
template is the row of the filled segments. Variables that are not named by names play no part. -/
theorem fill_splits (template : String) :
    ∃ segments : List Segment, Splits segments template.toList ∧
      (∀ others, Splits others template.toList → others = segments) ∧
      (∀ vars : Bindings,
        vars.fill template = String.ofList (segments.flatMap (Segment.filled vars))) ∧
      ∀ vars others : Bindings,
        (∀ name, isName name.toList = true → vars.get? name = others.get? name) →
          vars.fill template = others.fill template := by
  obtain ⟨segments, hsplits⟩ := exists_splits template.toList
  have hfill : ∀ vars : Bindings,
      vars.fill template = String.ofList (segments.flatMap (Segment.filled vars)) := fun vars => by
    rw [Bindings.fill, hsplits.fill vars]
  refine ⟨segments, hsplits, fun others => hsplits.unique, hfill, fun vars others hsame => ?_⟩
  have hrow : segments.flatMap (Segment.filled vars) = segments.flatMap (Segment.filled others) :=
    List.flatMap_congr fun segment hsegment => Segment.filled_congr fun name hname =>
      hsame name (hsplits.isName segment hsegment name hname)
  rw [hfill, hfill, hrow]

end ModelProbe.Template
