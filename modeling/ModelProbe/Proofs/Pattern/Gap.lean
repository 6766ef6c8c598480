import ModelProbe.Proofs.Pattern.Run
/-!
# Patterns with gaps

A pattern may be written with gaps, in each of which a name is put. Where the reader meets every
gap as an item, a name that has no special characters is read as its characters one by one, and so
is the same name with its characters escaped: both lead the reader from place to place alike.

* `Spelling`: a text stands for a name, character by character, plain or escaped.
* `Met`: the reader, with a letter in the gaps, meets each of them as an item.
* `Met.readsTo`: then all the texts that spell a name are read to the same state.
-/

namespace ModelProbe.Pattern

open Text

/-! ## Spelled names -/

/-- A character that stands for itself. -/
def Ordinary (modes : Modes) (c : Char) : Prop :=
  c ∉ specials ∧ Kept modes.spaced c

/-- The text stands for the name: every character for itself, or after a backslash. -/
inductive Spelling (modes : Modes) : List Char → List Char → Prop
  | nil : Spelling modes [] []
  | plain {c : Char} {name text : List Char} (ordinary : Ordinary modes c)
      (spelling : Spelling modes name text) : Spelling modes (c :: name) (c :: text)
  | escaped {c : Char} {name text : List Char} (escapable : isEscapable c = true)
      (spelling : Spelling modes name text) : Spelling modes (c :: name) ('\\' :: c :: text)

/-- The state after the characters of a name. -/
def State.spell (st : State) (name : List Char) : State :=
  name.foldl (fun st c => st.add (st.modes.literal c) 0) st

@[simp] theorem State.spell_cons (st : State) (c : Char) (name : List Char) :
    st.spell (c :: name) = (st.add (st.modes.literal c) 0).spell name := rfl

@[simp] theorem State.modes_spell (st : State) (name : List Char) :
    (st.spell name).modes = st.modes := by
  induction name generalizing st with
  | nil => rfl
  | cons c name ih =>
    rw [State.spell_cons, ih]
    rfl

@[simp] theorem State.names_spell (st : State) (name : List Char) :
    (st.spell name).names = st.names := by
  induction name generalizing st with
  | nil => rfl
  | cons c name ih =>
    rw [State.spell_cons, ih]
    rfl

theorem kept_backslash (spaced : Bool) : Kept spaced '\\' :=
  fun _ => ⟨by decide, by decide⟩

/-- An escaped character stands for itself. -/
theorem readEscape?_escapable {c : Char} (hc : isEscapable c = true) (modes : Modes)
    (rest : List Char) : readEscape? modes (c :: rest) = some (.literal c, rest) := by
  rw [readEscape?]
  · rw [if_pos hc]
  all_goals
    rintro rfl
    exact absurd hc (by decide)

/-- **A spelled name is read character by character.** -/
theorem Spelling.reaches {modes : Modes} {name text : List Char} (h : Spelling modes name text)
    (outer : List State) {st : State} (hmodes : st.modes = modes) (rest : List Char) :
    Reaches (⟨outer, st⟩, text ++ rest) (⟨outer, st.spell name⟩, rest) := by
  induction h generalizing st with
  | nil => exact .refl _
  | @plain c name text ordinary _ ih =>
    refine .head (step?_eq_some_iff.2 ⟨c, text ++ rest, .item (st.modes.literal c) 0, ?_, ?_, rfl⟩)
      (ih hmodes)
    · rw [hmodes]
      exact skipBlanks_cons ordinary.2 _
    · exact token?_literal ordinary.1 _ _
  | @escaped c name text escapable _ ih =>
    refine .head (step?_eq_some_iff.2 ⟨'\\', c :: (text ++ rest), .item (st.modes.literal c) 0, ?_,
      ?_, rfl⟩) (ih hmodes)
    · exact skipBlanks_cons (kept_backslash _) _
    · show (readEscape? st.modes (c :: (text ++ rest))).map _ = _
      rw [readEscape?_escapable escapable]
      rfl

/-- A spelled name begins with no blank, and goes on with nothing before it. -/
theorem Spelling.exists_head {modes : Modes} {name text : List Char} (h : Spelling modes name text)
    (hname : name ≠ []) :
    ∃ c rest, text = c :: rest ∧ Kept modes.spaced c ∧ c ≠ '?' ∧ c ≠ '{' := by
  cases h with
  | nil => exact absurd rfl hname
  | @plain c name text ordinary _ =>
    refine ⟨c, text, rfl, ordinary.2, ?_, ?_⟩
    · rintro rfl
      exact ordinary.1 (by decide)
    · rintro rfl
      exact ordinary.1 (by decide)
  | @escaped c name text _ _ =>
    exact ⟨'\\', c :: text, rfl, kept_backslash _, by decide, by decide⟩

/-! ## Places that are alike -/

/-- The tokens may be the same in the two states. -/
structure State.Alike (st st' : State) : Prop where
  modes : st.modes = st'.modes
  names : st.names = st'.names
  repeatable : (st.items.head?.bind Item.tree).isSome = (st'.items.head?.bind Item.tree).isSome

namespace State.Alike

variable {st st' : State}

theorem refl (st : State) : st.Alike st := ⟨rfl, rfl, rfl⟩

/-- The last item can be repeated where there is one that means something. -/
theorem isSome_repeatLast? (st : State) (least : Nat) (most : Option Nat) :
    (st.repeatLast? least most).isSome = (st.items.head?.bind Item.tree).isSome := by
  unfold State.repeatLast?
  split
  · next h => rw [h]; rfl
  · next h =>
    cases hitems : st.items with
    | nil => rfl
    | cons item rest =>
      obtain ⟨tree, depth⟩ := item
      cases tree with
      | none => rfl
      | some tree => exact absurd hitems (h tree depth rest)

theorem after? (h : st.Alike st') {tok : Token} {st₁ : State} (hst : st.after? tok = some st₁) :
    ∃ st₁', st'.after? tok = some st₁' ∧ st₁.Alike st₁' := by
  cases tok with
  | close => cases hst
  | opening m name => cases hst
  | branch =>
    obtain rfl := Option.some.inj hst
    exact ⟨_, rfl, h.modes, h.names, rfl⟩
  | change m =>
    obtain rfl := Option.some.inj hst
    exact ⟨_, rfl, rfl, h.names, rfl⟩
  | item tree depth =>
    obtain rfl := Option.some.inj hst
    exact ⟨_, rfl, h.modes, h.names, rfl⟩
  | times least most =>
    have hsome := isSome_repeatLast? st' least most
    rw [← h.repeatable, ← isSome_repeatLast? st least most] at hsome
    change st.repeatLast? least most = some st₁ at hst
    rw [hst] at hsome
    obtain ⟨st₁', hst₁'⟩ := Option.isSome_iff_exists.1 hsome
    refine ⟨st₁', hst₁', ?_⟩
    unfold State.repeatLast? at hst hst₁'
    split at hst
    · split at hst₁'
      · obtain rfl := Option.some.inj hst
        obtain rfl := Option.some.inj hst₁'
        exact ⟨h.modes, h.names, rfl⟩
      · cases hst₁'
    · cases hst

theorem close (h : st.Alike st') {inner inner' : State} (hinner : inner.Alike inner') :
    (st.close inner).Alike (st'.close inner') :=
  ⟨h.modes, hinner.names, rfl⟩

/-- A name's characters end alike with a single one. -/
theorem spell (h : st.Alike st') {name : List Char} (hname : name ≠ []) (tree : Tree)
    (depth : Nat) : (st.add tree depth).Alike (st'.spell name) := by
  refine ⟨?_, ?_, ?_⟩
  · rw [State.modes_spell]
    exact h.modes
  · rw [State.names_spell]
    exact h.names
  · obtain ⟨last, c, rfl⟩ := List.eq_nil_or_concat name |>.resolve_left hname
    rw [State.spell, List.concat_eq_append, List.foldl_append]
    rfl

end State.Alike

/-- The reader stands alike in the two places. -/
structure Place.Alike (p p' : Place) : Prop where
  outer : List.Forall₂ State.Alike p.outer p'.outer
  current : p.current.Alike p'.current

theorem Place.Alike.refl (p : Place) : p.Alike p :=
  ⟨List.forall₂_same.2 fun st _ => .refl st, .refl p.current⟩

/-- **Places that are alike are so after a token.** -/
theorem Place.Alike.next? {p p' q : Place} (h : p.Alike p') {tok : Token}
    (hnext : p.next? tok = some q) : ∃ q', p'.next? tok = some q' ∧ q.Alike q' := by
  cases tok with
  | close =>
    obtain ⟨outer, current⟩ := p
    obtain ⟨outer', current'⟩ := p'
    obtain ⟨houter, hcurrent⟩ := h
    cases houter with
    | nil => cases hnext
    | cons hst hrest =>
      obtain rfl := Option.some.inj hnext
      exact ⟨_, rfl, hrest, hst.close hcurrent⟩
  | opening m name =>
    unfold Place.next? at hnext
    dsimp only at hnext
    split at hnext
    · cases hnext
    · next hname =>
      obtain rfl := Option.some.inj hnext
      rw [h.current.names] at hname
      refine ⟨⟨p'.current :: p'.outer, p'.current.inner m name⟩, if_neg hname, ?_, ?_⟩
      · exact .cons h.current h.outer
      · show (p.current.inner m name).Alike (p'.current.inner m name)
        rw [State.inner, State.inner, h.current.names]
        exact .refl _
  | _ =>
    rw [Place.next?_of_ne (by rintro ⟨⟩) (by rintro m name ⟨⟩)] at hnext ⊢
    obtain ⟨st₁, hst₁, rfl⟩ := Option.map_eq_some_iff.1 hnext
    obtain ⟨st₁', hst₁', halike⟩ := h.current.after? hst₁
    exact ⟨⟨p'.outer, st₁'⟩, by rw [hst₁', Option.map_some], h.outer, halike⟩

/-! ## Gaps -/

/-- The text with a word in each of its gaps. -/
def fillGaps (word : List Char) (t : List (Option Char)) : List Char :=
  t.flatMap fun gap => gap.elim word ([·])

@[simp] theorem fillGaps_nil (word : List Char) : fillGaps word [] = [] := rfl

@[simp] theorem fillGaps_none (word : List Char) (t : List (Option Char)) :
    fillGaps word (none :: t) = word ++ fillGaps word t := rfl

@[simp] theorem fillGaps_some (word : List Char) (c : Char) (t : List (Option Char)) :
    fillGaps word (some c :: t) = c :: fillGaps word t := rfl

@[simp] theorem fillGaps_append (word : List Char) (t u : List (Option Char)) :
    fillGaps word (t ++ u) = fillGaps word t ++ fillGaps word u :=
  List.flatMap_append

@[simp] theorem fillGaps_map_some (word s : List Char) : fillGaps word (s.map some) = s := by
  induction s with
  | nil => rfl
  | cons c s ih => rw [List.map_cons, fillGaps_some, ih]

/-- The text with a letter in each of its gaps. -/
abbrev probed (t : List (Option Char)) : List Char := fillGaps ['m'] t

@[simp] theorem length_probed (t : List (Option Char)) : (probed t).length = t.length := by
  induction t with
  | nil => rfl
  | cons gap t ih => cases gap <;> simpa using ih

/-- A text whose gaps are all in its second part has none in the first. -/
theorem exists_of_probed_eq {t : List (Option Char)} {x s : List Char} (h : probed t = x ++ s)
    (hgaps : ∀ before after, t = before ++ none :: after → after.length < s.length) :
    ∃ t', t = x.map some ++ t' ∧ s = probed t' := by
  induction x generalizing t with
  | nil => exact ⟨t, rfl, h.symm⟩
  | cons c x ih =>
    cases t with
    | nil => cases h
    | cons gap t =>
      cases gap with
      | none =>
        have hlt := hgaps [] t rfl
        have hlength := congrArg List.length h
        simp only [length_probed, List.length_cons, List.length_append] at hlength
        omega
      | some d =>
        obtain ⟨rfl, htail⟩ := List.cons.inj h
        obtain ⟨t', rfl, hs⟩ := ih htail fun before after hbefore =>
          hgaps (some d :: before) after (congrArg (some d :: ·) hbefore)
        exact ⟨t', rfl, hs⟩

/-- With a letter in the gaps, the reader meets each of them as an item, and the modes there are
good. -/
def Met (good : Modes → Prop) (p : Place) (t : List (Option Char)) : Prop :=
  ∀ before after, t = before ++ none :: after → ∃ q s, Reaches (p, probed t) (q, s) ∧
    skipBlanks q.current.modes.spaced s = 'm' :: probed after ∧ good q.current.modes

/-- A text with one gap has it in one place. -/
theorem eq_of_single_gap {b a : List Char} {before after : List (Option Char)}
    (h : b.map some ++ none :: a.map some = before ++ none :: after) :
    before = b.map some ∧ after = a.map some := by
  induction b generalizing before with
  | nil =>
    cases before with
    | nil => exact ⟨rfl, (List.cons.inj h).2.symm⟩
    | cons gap before =>
      -- A second gap would be among the characters after the first.
      have hmem : none ∈ a.map some := by
        rw [(List.cons.inj h).2]
        exact List.mem_append_right before List.mem_cons_self
      simp at hmem
  | cons c b ih =>
    cases before with
    | nil => cases (List.cons.inj h).1
    | cons gap before =>
      obtain ⟨rfl, htail⟩ := List.cons.inj h
      obtain ⟨rfl, rfl⟩ := ih htail
      exact ⟨rfl, rfl⟩

/-- One gap is met where the steps lead to its letter. -/
theorem met_single_iff {good : Modes → Prop} {p : Place} {b a : List Char} :
    Met good p (b.map some ++ none :: a.map some) ↔ ∃ q s, Reaches (p, b ++ 'm' :: a) (q, s) ∧
      skipBlanks q.current.modes.spaced s = 'm' :: a ∧ good q.current.modes := by
  have hprobed : probed (b.map some ++ none :: a.map some) = b ++ 'm' :: a := by simp [probed]
  constructor
  · intro h
    obtain ⟨q, s, hreach, hs, hgood⟩ := h _ _ rfl
    rw [hprobed] at hreach
    rw [probed, fillGaps_map_some] at hs
    exact ⟨q, s, hreach, hs, hgood⟩
  · rintro ⟨q, s, hreach, hs, hgood⟩ before after hsplit
    obtain ⟨rfl, rfl⟩ := eq_of_single_gap hsplit
    rw [hprobed, probed, fillGaps_map_some]
    exact ⟨q, s, hreach, hs, hgood⟩

/-- The word stands for the name in all modes that are good. -/
def Spells (good : Modes → Prop) (name word : List Char) : Prop :=
  ∀ modes, good modes → Spelling modes name word

variable {good : Modes → Prop} {p q : Place} {t : List (Option Char)}

/-- A gap comes first, or it is met after a step. -/
theorem Met.cases (h : Met good p t) {before after : List (Option Char)}
    (ht : t = before ++ none :: after) :
    (skipBlanks p.current.modes.spaced (probed t) = 'm' :: probed after ∧
        good p.current.modes) ∨
      ∃ q s, step? (p, probed t) = some (q, s) ∧ after.length < s.length ∧
        ∃ q' s', Reaches (q, s) (q', s') ∧
          skipBlanks q'.current.modes.spaced s' = 'm' :: probed after ∧
          good q'.current.modes := by
  obtain ⟨q, s, hreach, hs, hgood⟩ := h before after ht
  rcases hreach.cases with heq | ⟨⟨q', s'⟩, hstep, hrest⟩
  · obtain ⟨rfl, rfl⟩ := Prod.mk.inj heq
    exact .inl ⟨hs, hgood⟩
  · refine .inr ⟨q', s', hstep, ?_, q, s, hrest, hs, hgood⟩
    have hle := length_of_reaches hrest
    have hskip := (skipBlanks_suffix q.current.modes.spaced s).length_le
    rw [hs, List.length_cons, length_probed] at hskip
    dsimp only at hle
    omega

/-- **Gaps are not among blanks.** They are skipped as they are, whatever stands in the gaps. -/
theorem Met.blanks (h : Met good p t) :
    ∃ (b : List Char) (t' : List (Option Char)), t = b.map some ++ t' ∧
      skipBlanks p.current.modes.spaced (probed t) = probed t' ∧
      (∀ u, t' = none :: u → good p.current.modes) ∧
      ∀ word, (∀ u, t' = none :: u → ∃ c r, word = c :: r ∧ Kept p.current.modes.spaced c) →
        skipBlanks p.current.modes.spaced (fillGaps word t) = fillGaps word t' := by
  obtain ⟨b, hb⟩ := skipBlanks_suffix p.current.modes.spaced (probed t)
  obtain ⟨t', rfl, hskip⟩ := exists_of_probed_eq hb.symm fun before after ht => by
    rcases h.cases ht with ⟨hs, -⟩ | ⟨q, s, hstep, hlt, -⟩
    · rw [hs, List.length_cons, length_probed]
      exact Nat.lt_succ_self _
    · exact Nat.lt_trans hlt (length_of_step? hstep)
  refine ⟨b, t', rfl, hskip, ?_, ?_⟩
  · rintro u rfl
    rcases h.cases rfl with ⟨-, hgood⟩ | ⟨q, s, hstep, hlt, q', s', hreach, hs, -⟩
    · exact hgood
    · -- What comes first is not met after a step.
      have hle := length_of_reaches hreach
      have hskip' := (skipBlanks_suffix q'.current.modes.spaced s').length_le
      have hstep' := length_of_step? hstep
      rw [hs, List.length_cons, length_probed] at hskip'
      rw [hskip, length_probed, List.length_cons] at hstep'
      dsimp only at hle
      omega
  · intro word hword
    rw [probed, fillGaps_append, fillGaps_map_some] at hskip
    rw [fillGaps_append, fillGaps_map_some]
    cases t' with
    | nil => exact hskip
    | cons gap u =>
      cases gap with
      | none =>
        obtain ⟨c, r, rfl, hc⟩ := hword u rfl
        exact skipBlanks_append_of_eq hskip (List.cons_ne_nil _ _) (skipBlanks_cons hc _)
      | some c =>
        exact skipBlanks_append_of_eq hskip (List.cons_ne_nil _ _)
          (skipBlanks_cons (kept_of_skipBlanks hskip) _)

/-- A gap that is not the first thing to come is met after the step. -/
theorem Met.after_of_step (h : Met good p t) {s : List Char}
    (hstep : step? (p, probed t) = some (q, s)) {before after : List (Option Char)}
    (ht : t = before ++ none :: after)
    (hfirst : skipBlanks p.current.modes.spaced (probed t) ≠ 'm' :: probed after) :
    after.length < s.length ∧ ∃ q' s', Reaches (q, s) (q', s') ∧
      skipBlanks q'.current.modes.spaced s' = 'm' :: probed after ∧ good q'.current.modes := by
  rcases h.cases ht with ⟨hs, -⟩ | ⟨q₁, s₁, hstep₁, hlater⟩
  · exact absurd hs hfirst
  · rw [hstep] at hstep₁
    obtain ⟨rfl, rfl⟩ := Prod.mk.inj (Option.some.inj hstep₁)
    exact hlater

/-- After a step, the gaps that are left are met from there. -/
theorem Met.later {pre t₁ : List (Option Char)} (h : Met good p (pre ++ t₁))
    (hstep : step? (p, probed (pre ++ t₁)) = some (q, probed t₁)) : Met good q t₁ := by
  rintro before after rfl
  refine (h.after_of_step hstep (List.append_assoc pre before (none :: after)).symm ?_).2
  intro hs
  have hlt := length_of_step? hstep
  rw [hs, length_probed, List.length_cons, length_probed, List.length_append,
    List.length_cons] at hlt
  omega

/-- The modes are those before a token that keeps them. -/
theorem Place.modes_of_next? {tok : Token} (h : p.next? tok = some q)
    (hkeeps : tok.Keeps p.current.modes) : q.current.modes = p.current.modes := by
  cases tok with
  | close => exact hkeeps.elim
  | opening m name =>
    unfold Place.next? at h
    dsimp only at h
    split at h
    · cases h
    · obtain rfl := Option.some.inj h
      exact hkeeps
  | times least most =>
    obtain ⟨st, hst, rfl⟩ := Option.map_eq_some_iff.1 h
    exact State.modes_of_repeatLast? hst
  | change m =>
    obtain rfl := Option.some.inj h
    exact hkeeps
  | _ =>
    obtain rfl := Option.some.inj h
    rfl

/-! ## Looking ahead -/

/-- A `\b` is a plain word boundary unless a brace follows. -/
theorem edgeBefore_of_ne {modes : Modes} {s : List Char} (h : s.head? ≠ some '{') :
    EdgeBefore modes s := by
  unfold EdgeBefore readWordBoundary?
  dsimp only
  split
  · exact absurd rfl h
  · rfl

/-- No blank and no digit may begin the name of a kind of word boundary. -/
theorem not_isAlpha_of_blank_or_digit {c : Char} (h : isBlank c = true ∨ c.isDigit = true) :
    c.isAlpha = false ∧ c ≠ '-' := by
  constructor
  · rw [Bool.eq_false_iff]
    intro halpha
    simp only [Char.isAlpha, Char.isUpper, Char.isLower, Bool.or_eq_true, Bool.and_eq_true,
      decide_eq_true_eq, UInt32.le_iff_toNat_le] at halpha
    change (65 ≤ c.toNat ∧ c.toNat ≤ 90) ∨ (97 ≤ c.toNat ∧ c.toNat ≤ 122) at halpha
    rcases h with h | h
    · simp only [isBlank, Bool.or_eq_true, Bool.and_eq_true, decide_eq_true_eq, beq_iff_eq] at h
      omega
    · simp only [Char.isDigit, Bool.and_eq_true, decide_eq_true_eq, UInt32.le_iff_toNat_le] at h
      change 48 ≤ c.toNat ∧ c.toNat ≤ 57 at h
      omega
  · rintro rfl
    revert h
    decide

/-- A number begins with a digit, apart from blanks and comments. -/
theorem blank_or_digit_of_readCount? {spaced : Bool} {s : List Char} {c : Char}
    {found : Nat × List Char} (hkept : Kept spaced c)
    (h : readCount? spaced (c :: s) = some found) : isBlank c = true ∨ c.isDigit = true := by
  by_cases hblank : isBlank c = true
  · exact .inl hblank
  · right
    rw [readCount?, List.dropWhile_cons_of_neg hblank] at h
    by_contra hdigit
    have hdigits : readDigits spaced false (c :: s) = ([], c :: s) := by
      have hhash : ¬ (spaced && c == '#') = true := by
        intro hand
        rw [Bool.and_eq_true, beq_iff_eq] at hand
        exact (hkept hand.1).2 hand.2
      rw [readDigits, if_neg (by decide), if_neg (by simp [hblank]), if_neg hhash, if_neg hdigit]
    rw [hdigits] at h
    cases h

/-- Braces with a number in them do not name a kind of word boundary. -/
theorem edgeBefore_of_readTimes? {modes : Modes} {taken : List Char} {least : Nat}
    {most : Option Nat} (h : readTimes? modes taken = some (least, most, [])) (rest : List Char) :
    EdgeBefore modes ('{' :: (taken ++ rest)) := by
  obtain ⟨found, hcount⟩ : ∃ found,
      readCount? modes.spaced (skipBlanks modes.spaced taken) = some found := by
    cases hcount : readCount? modes.spaced (skipBlanks modes.spaced taken) with
    | none =>
      rw [readTimes?, hcount] at h
      cases h
    | some found => exact ⟨found, rfl⟩
  have hne : skipBlanks modes.spaced taken ≠ [] := fun hnil => by
    rw [hnil] at hcount
    cases hcount
  obtain ⟨c, r, hc⟩ := List.exists_cons_of_ne_nil hne
  rw [hc] at hcount
  obtain ⟨halpha, hhyphen⟩ :=
    not_isAlpha_of_blank_or_digit (blank_or_digit_of_readCount? (kept_of_skipBlanks hc) hcount)
  have hskip : skipBlanks modes.spaced (taken ++ rest) = c :: (r ++ rest) := by
    rw [skipBlanks_append hne, hc, List.cons_append]
  unfold EdgeBefore readWordBoundary?
  simp only [hskip]
  rw [if_pos (by simp [halpha, hhyphen])]

/-- A brace that is met as a token holds a number, and no gap. -/
theorem Met.brace {u : List (Option Char)} {r : Place × List Char}
    (h : Met good q (some '{' :: u)) (hstep : step? (q, probed (some '{' :: u)) = some r) :
    ∃ (taken : List Char) (u' : List (Option Char)) (least : Nat) (most : Option Nat),
      u = taken.map some ++ u' ∧
        readTimes? q.current.modes taken = some (least, most, []) := by
  obtain ⟨q', s⟩ := r
  have hskip : skipBlanks q.current.modes.spaced (probed (some '{' :: u)) = '{' :: probed u :=
    skipBlanks_cons (fun _ => ⟨by decide, by decide⟩) _
  obtain ⟨c, v, tok, hs, htok, -⟩ := step?_eq_some_iff.1 hstep
  rw [hskip] at hs
  obtain ⟨rfl, rfl⟩ := List.cons.inj hs
  change (readTimes? q.current.modes (probed u)).map _ = _ at htok
  obtain ⟨⟨least, most, rest⟩, hread, heq⟩ := Option.map_eq_some_iff.1 htok
  obtain ⟨-, rfl⟩ := Prod.mk.inj heq
  obtain ⟨taken, htaken, hagain⟩ := extent_readTimes? hread
  have hlazy : (dropLazyMark q.current.modes rest).length ≤ rest.length := by
    obtain ⟨mark, hmark, -⟩ := extent_dropLazyMark q.current.modes rest
    have hlength := congrArg List.length hmark
    rw [List.length_append] at hlength
    omega
  obtain ⟨u', rfl, -⟩ := exists_of_probed_eq htaken fun before after hu => by
    have hsplit : some '{' :: u = (some '{' :: before) ++ none :: after :=
      congrArg (some '{' :: ·) hu
    have hlt := (h.after_of_step hstep hsplit (by
      rw [hskip]
      exact fun hs => absurd (List.cons.inj hs).1 (by decide))).1
    omega
  have hread' := hagain []
  rw [List.append_nil] at hread'
  exact ⟨taken, u', least, most, rfl, hread'⟩

/-- A brace that is read as a token is no word boundary's, whatever stands in the gaps. -/
theorem Met.edgeBefore_brace {u : List (Option Char)} (h : Met good q (some '{' :: u))
    (hgo : skipBlanks q.current.modes.spaced (probed (some '{' :: u)) = [] ∨
      ∃ r, step? (q, probed (some '{' :: u)) = some r) (word : List Char) :
    EdgeBefore q.current.modes (fillGaps word (some '{' :: u)) := by
  rcases hgo with hnil | ⟨r, hstep⟩
  · rw [probed, fillGaps_some, skipBlanks_cons fun _ => ⟨by decide, by decide⟩] at hnil
    cases hnil
  · obtain ⟨taken, u', least, most, rfl, hread⟩ := h.brace hstep
    rw [fillGaps_some, fillGaps_append, fillGaps_map_some]
    exact edgeBefore_of_readTimes? hread _

/-- **The readers that look ahead see no difference** between the letter and a spelled name in the
gaps. -/
theorem Met.sameAhead (h : Met good q t) {name word : List Char} (hname : name ≠ [])
    (hword : Spells good name word)
    (hgo : skipBlanks q.current.modes.spaced (probed t) = [] ∨
      ∃ r, step? (q, probed t) = some r) :
    SameAhead q.current.modes (probed t) (fillGaps word t) := by
  obtain ⟨b, t', ht, hskip, hgood, hblank⟩ := h.blanks
  have hhead : ∀ u, t' = none :: u → ∃ c r, word = c :: r ∧ Kept q.current.modes.spaced c ∧
      c ≠ '?' ∧ c ≠ '{' := fun u hu => (hword _ (hgood u hu)).exists_head hname
  have hskip' := hblank word fun u hu => by
    obtain ⟨c, r, hc, hkept, -⟩ := hhead u hu
    exact ⟨c, r, hc, hkept⟩
  refine ⟨?_, ?_, ?_, ?_⟩
  · intro hnil
    have hlength := congrArg List.length hnil
    rw [length_probed, List.length_nil, List.length_eq_zero_iff] at hlength
    rw [hlength]
    rfl
  · intro hkept
    -- Nothing is skipped, so nothing is before the rest.
    have hlength := congrArg List.length (hskip.symm.trans hkept)
    rw [length_probed, length_probed, ht, List.length_append, List.length_map] at hlength
    obtain rfl : b = [] := List.length_eq_zero_iff.1 (by omega)
    rw [hskip', ht]
    rfl
  · rw [hskip, hskip']
    intro hquestion
    cases t' with
    | nil => cases hquestion
    | cons gap u =>
      cases gap with
      | none =>
        obtain ⟨c, r, rfl, -, hc, -⟩ := hhead u rfl
        exact absurd (Option.some.inj hquestion) hc
      | some c => exact hquestion
  · intro _
    cases t with
    | nil => exact edgeBefore_of_ne (by rintro ⟨⟩)
    | cons gap u =>
      cases gap with
      | none =>
        cases b with
        | nil =>
          obtain ⟨c, r, rfl, -, -, hc⟩ := hhead u ht.symm
          exact edgeBefore_of_ne fun heq => hc (Option.some.inj heq)
        | cons d b => cases (List.cons.inj ht).1
      | some c =>
        by_cases hc : c = '{'
        · subst hc
          exact h.edgeBefore_brace hgo word
        · exact edgeBefore_of_ne fun heq => hc (Option.some.inj heq)

/-! ## Runs -/

/-- A step depends on what is left without blanks. -/
theorem step?_skipBlanks (p : Place) (s : List Char) :
    step? (p, skipBlanks p.current.modes.spaced s) = step? (p, s) := by
  unfold step?
  dsimp only
  rw [skipBlanks_skipBlanks]

/-- The reader that takes a token may stand before the blanks as well. -/
theorem Reaches.of_skipBlanks {s s' rest : List Char}
    (hs : skipBlanks p.current.modes.spaced s = s') (h : Reaches (p, s') (q, rest))
    (hlt : rest.length < s'.length) : Reaches (p, s) (q, rest) := by
  rcases h.cases with heq | ⟨r, hstep, hrest⟩
  · obtain ⟨-, rfl⟩ := Prod.mk.inj heq
    exact absurd hlt (Nat.lt_irrefl _)
  · rw [← hs, step?_skipBlanks] at hstep
    exact .head hstep hrest

/-- A step that comes to a gap takes its letter as an item. -/
theorem Met.step_letter {pre u : List (Option Char)} (h : Met good p (pre ++ none :: u))
    (hskip : skipBlanks p.current.modes.spaced (probed (pre ++ none :: u)) = 'm' :: probed u)
    {s : List Char} (hstep : step? (p, probed (pre ++ none :: u)) = some (q, s)) :
    q = ⟨p.outer, p.current.add (p.current.modes.literal 'm') 0⟩ ∧ s = probed u ∧
      Met good q u := by
  obtain ⟨c, v, tok, hs, htok, hnext⟩ := step?_eq_some_iff.1 hstep
  rw [hskip] at hs
  obtain ⟨rfl, rfl⟩ := List.cons.inj hs
  rw [token?_literal (by decide)] at htok
  obtain ⟨rfl, rfl⟩ := Prod.mk.inj (Option.some.inj htok)
  change some (Place.mk p.outer (p.current.add (p.current.modes.literal 'm') 0)) = _ at hnext
  obtain rfl := Option.some.inj hnext
  rw [List.append_cons] at h hstep
  exact ⟨rfl, rfl, h.later hstep⟩

/-- A step that comes to a character takes a token without gaps. -/
theorem Met.step_token {pre u : List (Option Char)} {d : Char}
    (h : Met good p (pre ++ some d :: u))
    (hskip : skipBlanks p.current.modes.spaced (probed (pre ++ some d :: u)) = d :: probed u)
    {s : List Char} (hstep : step? (p, probed (pre ++ some d :: u)) = some (q, s)) :
    ∃ (tok : Token) (taken : List Char) (t₁ : List (Option Char)), u = taken.map some ++ t₁ ∧
      s = probed t₁ ∧ Met good q t₁ ∧ p.next? tok = some q ∧
      ∀ rest, tok.Like p.current.modes (probed t₁) rest →
        token? p.current.modes (d :: (taken ++ rest)) = some (tok, rest) := by
  obtain ⟨c, v, tok, hs, htok, hnext⟩ := step?_eq_some_iff.1 hstep
  rw [hskip] at hs
  obtain ⟨rfl, rfl⟩ := List.cons.inj hs
  obtain ⟨e, v, he, taken, rfl, htaken⟩ := extent_token? htok
  obtain ⟨rfl, hu⟩ := List.cons.inj he
  obtain ⟨t₁, rfl, rfl⟩ := exists_of_probed_eq hu fun before after hbefore => by
    have hsplit : pre ++ some d :: u = (pre ++ some d :: before) ++ none :: after := by
      rw [hbefore]
      simp
    refine (h.after_of_step hstep hsplit fun hfirst => ?_).1
    have hlength := congrArg List.length (hskip.symm.trans hfirst)
    rw [List.length_cons, List.length_cons, length_probed, length_probed, hbefore] at hlength
    simp only [List.length_cons, List.length_append] at hlength
    omega
  refine ⟨tok, taken, t₁, rfl, rfl, ?_, hnext, htaken⟩
  have hsplit : pre ++ some d :: (taken.map some ++ t₁) =
      (pre ++ some d :: taken.map some) ++ t₁ := by simp
  rw [hsplit] at h hstep
  exact h.later hstep

/-- **What one step does.** With a name spelled in the gaps the reader goes on alike: by the same
token, or by the characters of the name where the step takes the letter of a gap. -/
theorem Met.step_alike (h : Met good p t) {p' : Place} (halike : p.Alike p') {s : List Char}
    (hstep : step? (p, probed t) = some (q, s))
    (hgo : skipBlanks q.current.modes.spaced s = [] ∨ ∃ r, step? (q, s) = some r)
    {name : List Char} (hname : name ≠ []) :
    ∃ t₁ q', s = probed t₁ ∧ Met good q t₁ ∧ q.Alike q' ∧
      ∀ word, Spells good name word → Reaches (p', fillGaps word t) (q', fillGaps word t₁) := by
  obtain ⟨b, t', rfl, hskip, hgood, hblank⟩ := h.blanks
  have hmodes : p'.current.modes = p.current.modes := halike.current.modes.symm
  cases t' with
  | nil =>
    obtain ⟨c, v, tok, hs, -⟩ := step?_eq_some_iff.1 hstep
    rw [hskip] at hs
    cases hs
  | cons gap u =>
    cases gap with
    | none =>
      obtain ⟨rfl, rfl, hlater⟩ := h.step_letter hskip hstep
      refine ⟨u, ⟨p'.outer, p'.current.spell name⟩, rfl, hlater,
        ⟨halike.outer, halike.current.spell hname _ _⟩, fun word hword => ?_⟩
      have hspelling := hword _ (hgood u rfl)
      obtain ⟨d, r, hd, hkept, -⟩ := hspelling.exists_head hname
      have hskip' := hblank word fun u' _ => ⟨d, r, hd, hkept⟩
      rw [← hmodes] at hskip'
      refine .of_skipBlanks hskip' (hspelling.reaches p'.outer hmodes _) ?_
      simp only [fillGaps_none, hd, List.length_append, List.length_cons]
      omega
    | some d =>
      obtain ⟨tok, taken, t₁, rfl, rfl, hlater, hnext, htaken⟩ := h.step_token hskip hstep
      obtain ⟨q', hq', halike'⟩ := halike.next? hnext
      refine ⟨t₁, q', rfl, hlater, halike', fun word hword => ?_⟩
      have hskip' := hblank word fun u' hu' => by cases (List.cons.inj hu').1
      have hcons : fillGaps word (some d :: (taken.map some ++ t₁)) =
          d :: (taken ++ fillGaps word t₁) := by simp
      have htok' := htaken (fillGaps word t₁) fun hkeeps => by
        rw [← Place.modes_of_next? hnext hkeeps]
        exact hlater.sameAhead hname hword hgo
      rw [← hmodes] at hskip' htok'
      rw [hcons] at hskip'
      exact .head (step?_eq_some_iff.2 ⟨d, _, tok, hskip', htok', hq'⟩) (.refl _)

/-- **What a whole run does.** Where a text with a letter in its gaps is read to its end, and every
gap is met as an item, all the words that spell a name lead to one and the same state. -/
theorem Met.ends (h : Met good p t) {p' : Place} (halike : p.Alike p') {st : State}
    {s : List Char} (hends : Ends st s (p, probed t)) {name : List Char} (hname : name ≠ []) :
    ∃ st', ∀ word, Spells good name word → ∃ s', Ends st' s' (p', fillGaps word t) := by
  obtain ⟨hreach, hend⟩ := hends
  generalize hfrom : (p, probed t) = x at hreach
  induction hreach using Relation.ReflTransGen.head_induction_on generalizing p p' t with
  | refl =>
    obtain ⟨rfl, rfl⟩ := Prod.mk.inj hfrom
    obtain ⟨b, t', -, hskip, -, hblank⟩ := h.blanks
    obtain rfl : t' = [] := by
      have hlength := congrArg List.length (hskip.symm.trans hend)
      rw [length_probed, List.length_nil, List.length_eq_zero_iff] at hlength
      exact hlength
    have hp' : p' = ⟨[], p'.current⟩ := by
      obtain ⟨outer', current'⟩ := p'
      cases halike.outer
      rfl
    refine ⟨p'.current, fun word _ => ⟨fillGaps word t, ?_, ?_⟩⟩
    · rw [← hp']
      exact .refl _
    · rw [← halike.current.modes]
      exact hblank word fun u hu => by cases hu
  | @head x y hstep hrest ih =>
    subst hfrom
    obtain ⟨q, r⟩ := y
    have hgo : skipBlanks q.current.modes.spaced r = [] ∨ ∃ z, step? (q, r) = some z := by
      rcases Reaches.cases hrest with heq | ⟨z, hz, -⟩
      · obtain ⟨rfl, rfl⟩ := Prod.mk.inj heq
        exact .inl hend
      · exact .inr ⟨z, hz⟩
    obtain ⟨t₁, q', rfl, hmet, halike', hgoes⟩ := h.step_alike halike hstep hgo hname
    obtain ⟨st', hst'⟩ := ih hmet halike' rfl
    refine ⟨st', fun word hword => ?_⟩
    obtain ⟨s', hreach', hend'⟩ := hst' word hword
    exact ⟨s', (hgoes word hword).trans hreach', hend'⟩

/-- **A pattern whose gaps are met as items.** All the words that spell a name are read in its
gaps, and they are read alike. -/
theorem Met.readsTo (h : Met good .start t) {st : State} (hread : ReadsTo (probed t) st)
    {name : List Char} (hname : name ≠ []) :
    ∃ st', ∀ word, Spells good name word → ReadsTo (fillGaps word t) st' := by
  obtain ⟨s, hends⟩ := hread
  exact h.ends (.refl _) hends hname

end ModelProbe.Pattern
