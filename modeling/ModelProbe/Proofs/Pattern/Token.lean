import ModelProbe.Proofs.Pattern.ClassExtent
/-!
# The tokens of a pattern

The reader of a pattern goes from token to token: an item, a repetition of the last item, a sign
between alternatives, the head of a group or its end. Which token comes next depends on the modes
alone, and it is read from its own characters.

* `readItems?_succ`: the reader takes a token and goes on in the state after it.
* `extent_token?`: a token is read from its own characters, when the readers that look ahead see no
  difference in what follows.
-/

namespace ModelProbe.Pattern

open Text

/-! ## Groups -/

theorem extent_readModes? {start m : Modes} {seen : List Char} {off : Bool} {s rest : List Char}
    {c : Char} (h : readModes? start seen off s = some (m, c :: rest)) :
    ∃ taken, s = taken ++ c :: rest ∧
      ∀ rest', readModes? start seen off (taken ++ c :: rest') = some (m, c :: rest') := by
  induction s generalizing start seen off with
  | nil => cases h
  | cons d s ih =>
    rw [readModes?] at h
    split at h
    · next hend =>
      split at h
      · cases h
      · next hhyphen =>
        obtain ⟨rfl, hcons⟩ := Prod.mk.inj (Option.some.inj h)
        obtain ⟨rfl, rfl⟩ := List.cons.inj hcons
        refine ⟨[], rfl, fun rest' => ?_⟩
        rw [List.nil_append, readModes?, if_pos hend, if_neg hhyphen]
    · next hend =>
      split at h
      · cases h
      · next hseen =>
        dsimp only at h
        split at h
        · cases h
        · next next hnext =>
          obtain ⟨taken, rfl, htaken⟩ := ih h
          refine ⟨d :: taken, rfl, fun rest' => ?_⟩
          rw [List.cons_append, readModes?, if_neg hend, if_neg hseen]
          dsimp only
          rw [hnext]
          exact htaken rest'

/-- A group's name, when it is one. -/
def groupName? (name : List Char) : Option (List Char) :=
  match name with
  | [] => none
  | c :: name =>
    let isLetter (c : Char) : Bool := alphabeticRanges.contains c
    let isNumber (c : Char) : Bool := ((categoryRanges? "n").getD []).contains c
    if (c == '_' || isLetter c) &&
        name.all (fun c => c == '_' || c == '.' || c == '[' || c == ']' || isLetter c || isNumber c)
    then some (c :: name) else none

theorem readGroupName?_eq (s : List Char) :
    readGroupName? s =
      (splitFirst? '>' s).bind fun found => (groupName? found.1).map (·, found.2) := by
  unfold readGroupName?
  split
  · next c name rest hs =>
    rw [hs, Option.bind_some, groupName?]
    dsimp only
    split <;> rfl
  · next hno =>
    cases hs : splitFirst? '>' s with
    | none => rfl
    | some found =>
      obtain ⟨name, rest⟩ := found
      cases name with
      | nil => rfl
      | cons c name => exact absurd hs (hno _ _ _)

theorem hasExtent_readGroupName? : HasExtent readGroupName? := by
  rw [funext readGroupName?_eq]
  exact (hasExtent_splitFirst? '>').filterMap groupName?

/-- No mode is written with these letters. -/
theorem readModes?_of_not_mode {start : Modes} {c : Char} (hc : c = 'P' ∨ c = '<')
    (s : List Char) : readModes? start [] false (c :: s) = none := by
  rcases hc with rfl | rfl <;> rfl

/-- A group whose head has modes. -/
theorem readGroupHead?_modes {modes m : Modes} {s r after : List Char} {c : Char}
    (hs : skipBlanks modes.spaced s = '?' :: r)
    (hr : readModes? modes [] false r = some (m, c :: after)) :
    readGroupHead? modes s =
      if c = ')' then if r.head? = some ')' then none else some (.modes m, after)
      else some (.group m none, after) := by
  have hno : ∀ d t, d = 'P' ∨ d = '<' → r ≠ d :: t := by
    rintro d t hd rfl
    rw [readModes?_of_not_mode hd] at hr
    cases hr
  unfold readGroupHead?
  split
  · next heq =>
    rw [hs] at heq
    exact absurd (List.cons.inj heq).2 (hno _ _ (.inl rfl))
  · next heq =>
    rw [hs] at heq
    exact absurd (List.cons.inj heq).2 (hno _ _ (.inr rfl))
  · next heq =>
    rw [hs] at heq
    obtain ⟨-, rfl⟩ := List.cons.inj heq
    rw [hr]
    by_cases hc : c = ')'
    · subst hc
      rw [if_pos rfl]
      rfl
    · rw [if_neg hc]
      split
      · next heq' =>
        obtain ⟨-, hcons⟩ := Prod.mk.inj (Option.some.inj heq')
        exact absurd (List.cons.inj hcons).1 hc
      · next heq' =>
        obtain ⟨rfl, hcons⟩ := Prod.mk.inj (Option.some.inj heq')
        obtain ⟨-, rfl⟩ := List.cons.inj hcons
        rfl
      · next hno' => exact absurd rfl (hno' _ _ _)
  · next hquestion => exact absurd hs (hquestion _)

/-- A group whose head has nothing. -/
theorem readGroupHead?_plain {modes : Modes} {s : List Char}
    (hs : (skipBlanks modes.spaced s).head? ≠ some '?') :
    readGroupHead? modes s = some (.group modes none, skipBlanks modes.spaced s) := by
  unfold readGroupHead?
  split
  · next heq => exact absurd (congrArg List.head? heq) hs
  · next heq => exact absurd (congrArg List.head? heq) hs
  · next heq => exact absurd (congrArg List.head? heq) hs
  · rfl

/-- A group's head that has nothing may be followed by what looks the same. -/
def GroupHead.Like (modes : Modes) (head : GroupHead) (rest rest' : List Char) : Prop :=
  head = .group modes none → SameAhead modes rest rest'

section GroupHead

variable {modes : Modes} {s rest : List Char} {head : GroupHead}

/-- A head with a name, after one sign or another. -/
theorem extent_readGroupHead?_named (h : readGroupHead? modes s = some (head, rest))
    {sign r : List Char} (hs : skipBlanks modes.spaced s = '?' :: (sign ++ r))
    (hread : ∀ s' r', skipBlanks modes.spaced s' = '?' :: (sign ++ r') → readGroupHead? modes s' =
      (readGroupName? r').map fun found => (.group modes (some found.1), found.2)) :
    TakesBefore (head.Like modes rest) (readGroupHead? modes) s head rest := by
  rw [hread s r hs] at h
  obtain ⟨taken, rfl, htaken⟩ :=
    hasExtent_readGroupName?.map (fun name => GroupHead.group modes (some name)) h
  obtain ⟨p, rfl, hp⟩ := exists_skipped hs
  refine ⟨p ++ '?' :: (sign ++ taken), by simp, fun rest' _ => ?_⟩
  have hs' : p ++ '?' :: (sign ++ taken) ++ rest' = p ++ '?' :: (sign ++ (taken ++ rest')) := by
    simp
  rw [hs', hread _ _ (hp _)]
  exact htaken rest'

/-- A head with modes, which are read up to a colon or a bracket that belongs to it. -/
theorem extent_readGroupHead?_modes (h : readGroupHead? modes s = some (head, rest))
    {r after : List Char} {m : Modes} {c : Char} (hs : skipBlanks modes.spaced s = '?' :: r)
    (hr : readModes? modes [] false r = some (m, c :: after)) :
    TakesBefore (head.Like modes rest) (readGroupHead? modes) s head rest := by
  obtain ⟨taken, rfl, htaken⟩ := extent_readModes? hr
  obtain ⟨p, rfl, hp⟩ := exists_skipped hs
  rw [readGroupHead?_modes hs hr] at h
  have hafter : after = rest := by
    split at h
    · split at h
      · cases h
      · exact (Prod.mk.inj (Option.some.inj h)).2
    · exact (Prod.mk.inj (Option.some.inj h)).2
  subst hafter
  refine ⟨p ++ '?' :: (taken ++ [c]), by simp, fun rest' _ => ?_⟩
  have hs' : p ++ '?' :: (taken ++ [c]) ++ rest' = p ++ '?' :: (taken ++ c :: rest') := by simp
  have hhead : (taken ++ c :: rest').head? = (taken ++ c :: after).head? := by cases taken <;> rfl
  rw [hs', readGroupHead?_modes (hp _) (htaken rest'), hhead]
  split at h
  · next hc =>
    split at h
    · cases h
    · next hclose =>
      obtain ⟨rfl, -⟩ := Prod.mk.inj (Option.some.inj h)
      rw [if_pos hc, if_neg hclose]
  · next hc =>
    obtain ⟨rfl, -⟩ := Prod.mk.inj (Option.some.inj h)
    rw [if_neg hc]

/-- A head that has nothing must be followed by a text that is none. -/
theorem extent_readGroupHead?_plain (h : readGroupHead? modes s = some (head, rest))
    (hs : (skipBlanks modes.spaced s).head? ≠ some '?') :
    TakesBefore (head.Like modes rest) (readGroupHead? modes) s head rest := by
  rw [readGroupHead?_plain hs] at h
  obtain ⟨rfl, rfl⟩ := Prod.mk.inj (Option.some.inj h)
  obtain ⟨p, hp⟩ := skipBlanks_suffix modes.spaced s
  refine ⟨p, hp.symm, fun rest' hlike => ?_⟩
  obtain ⟨hnil, hkept, hmark, -⟩ := hlike rfl
  have hskip : skipBlanks modes.spaced (p ++ rest') = rest' := by
    by_cases hs : skipBlanks modes.spaced s = []
    · rw [hnil hs, ← hs, hp]
    · refine skipBlanks_append_of_eq ?_ hs (hkept (skipBlanks_skipBlanks _ _))
      rw [hp]
  rw [readGroupHead?_plain, hskip]
  rw [hskip]
  intro heq
  rw [← hkept (skipBlanks_skipBlanks _ _)] at heq
  have hhead := hmark heq
  rw [skipBlanks_skipBlanks] at hhead
  exact hs hhead

/-- **The head of a group is read from its own characters.** -/
theorem extent_readGroupHead? (h : readGroupHead? modes s = some (head, rest)) :
    TakesBefore (head.Like modes rest) (readGroupHead? modes) s head rest := by
  have hread := h
  unfold readGroupHead? at hread
  split at hread
  · next r hs =>
    refine @extent_readGroupHead?_named modes s rest head h ['P', '<'] r hs fun s' r' hs' => ?_
    unfold readGroupHead?
    rw [hs']
    rfl
  · next r hs =>
    refine @extent_readGroupHead?_named modes s rest head h ['<'] r hs fun s' r' hs' => ?_
    unfold readGroupHead?
    rw [hs']
    rfl
  · next r _ _ hs =>
    split at hread
    · next hr => exact extent_readGroupHead?_modes h hs hr
    · next hr => exact extent_readGroupHead?_modes h hs hr
    · cases hread
  · next hquestion =>
    refine extent_readGroupHead?_plain h fun hhead => ?_
    obtain ⟨t, ht⟩ := List.head?_eq_some_iff.1 hhead
    exact hquestion t ht

end GroupHead

/-- The mark that makes a repetition lazy is dropped from its own characters; where there is none,
what follows must not begin with one. -/
theorem extent_dropLazyMark (modes : Modes) (s : List Char) :
    ∃ taken, s = taken ++ dropLazyMark modes s ∧
      ∀ rest', SameAhead modes (dropLazyMark modes s) rest' →
        dropLazyMark modes (taken ++ rest') = rest' := by
  unfold dropLazyMark
  split
  · next rest hs =>
    obtain ⟨p, rfl, hp⟩ := exists_skipped hs
    refine ⟨p ++ ['?'], by simp, fun rest' _ => ?_⟩
    rw [List.append_assoc, List.singleton_append, hp]
    rfl
  · next hno =>
    refine ⟨[], rfl, fun rest' hsame => ?_⟩
    rw [List.nil_append]
    split
    · next rest hs =>
      have hmark := hsame.question (congrArg List.head? hs)
      obtain ⟨t, ht⟩ := List.head?_eq_some_iff.1 hmark
      exact absurd ht (hno t)
    · rfl

/-! ## Tokens -/

/-- What the reader of a pattern meets next. -/
inductive Token
  /-- The end of a group. -/
  | close
  /-- The sign between alternatives. -/
  | branch
  /-- A change of the modes for the rest of a group. -/
  | change (m : Modes)
  /-- The head of a group, with its modes and its name. -/
  | opening (m : Modes) (name : Option (List Char))
  /-- An item, and how deep it is nested. -/
  | item (tree : Tree) (depth : Nat)
  /-- A repetition of the last item. -/
  | times (least : Nat) (most : Option Nat)

/-- The head of a group as a token. -/
def GroupHead.token : GroupHead → Token
  | .modes m => .change m
  | .group m name => .opening m name

/-- The tree of an escape. -/
def Escape.tree (modes : Modes) : Escape → Tree
  | .literal c => modes.literal c
  | .set ranges => .chars ranges
  | .boundary b => .boundary b

/-- The token that a text begins with, and the text after it. -/
def token? (modes : Modes) (s : List Char) : Option (Token × List Char) :=
  match s with
  | [] => none
  | ')' :: rest => some (.close, rest)
  | '|' :: rest => some (.branch, rest)
  | '(' :: rest => (readGroupHead? modes rest).map fun found => (found.1.token, found.2)
  | '[' :: rest => (readClass? modes rest).map fun found => (.item (.chars found.1) 1, found.2)
  | '*' :: rest => some (.times 0 none, dropLazyMark modes rest)
  | '+' :: rest => some (.times 1 none, dropLazyMark modes rest)
  | '?' :: rest => some (.times 0 (some 1), dropLazyMark modes rest)
  | '{' :: rest =>
    (readTimes? modes rest).map fun (least, most, rest) =>
      (.times least most, dropLazyMark modes rest)
  | '.' :: rest => modes.dot?.map fun dot => (.item dot 0, rest)
  | '^' :: rest => some (.item (.boundary modes.caret) 0, rest)
  | '$' :: rest => some (.item (.boundary modes.dollar) 0, rest)
  | '\\' :: rest =>
    (readEscape? modes rest).map fun found => (.item (found.1.tree modes) 0, found.2)
  | c :: rest => some (.item (modes.literal c) 0, rest)

/-- The characters that do not stand for themselves in a pattern. -/
def specials : List Char := [')', '|', '(', '[', '*', '+', '?', '{', '.', '^', '$', '\\']

/-- Every other character is an item. -/
theorem token?_literal {c : Char} (hc : c ∉ specials) (modes : Modes) (rest : List Char) :
    token? modes (c :: rest) = some (.item (modes.literal c) 0, rest) := by
  rw [token?]
  all_goals
    rintro rfl
    exact hc (by decide)

/-- The modes after the token are those before it. -/
def Token.Keeps (modes : Modes) : Token → Prop
  | .close => False
  | .change m => m = modes
  | .opening m _ => m = modes
  | _ => True

/-- A token after which the modes are the same may be followed by what looks the same. -/
def Token.Like (modes : Modes) (tok : Token) (rest rest' : List Char) : Prop :=
  tok.Keeps modes → SameAhead modes rest rest'

/-- **A token is read from its own characters**, when the readers that look ahead see no
difference in what follows. -/
theorem extent_token? {modes : Modes} {s rest : List Char} {tok : Token}
    (h : token? modes s = some (tok, rest)) :
    ∃ c t, s = c :: t ∧
      TakesBefore (tok.Like modes rest) (fun t => token? modes (c :: t)) t tok rest := by
  cases s with
  | nil => cases h
  | cons c s =>
    refine ⟨c, s, rfl, ?_⟩
    -- A token of one character.
    have hone : ∀ x : Token, (∀ t, token? modes (c :: t) = some (x, t)) →
        TakesBefore (tok.Like modes rest) (fun t => token? modes (c :: t)) s tok rest := by
      intro x heq
      rw [heq] at h
      obtain ⟨rfl, rfl⟩ := Prod.mk.inj (Option.some.inj h)
      exact ⟨[], rfl, fun rest' _ => heq rest'⟩
    -- A repetition, which may be marked as lazy.
    have htimes : ∀ (least : Nat) (most : Option Nat) (r : List Char),
        (.times least most, dropLazyMark modes r) = (tok, rest) →
        TakesBefore (tok.Like modes rest)
          (fun t => some (.times least most, dropLazyMark modes t)) r tok rest := by
      intro least most r heq
      obtain ⟨rfl, rfl⟩ := Prod.mk.inj heq
      obtain ⟨taken, hr, htaken⟩ := extent_dropLazyMark modes r
      refine ⟨taken, hr, fun rest' hlike => ?_⟩
      dsimp only
      rw [htaken rest' (hlike trivial)]
    have htoken := h
    unfold token? at htoken
    split at htoken
    · next heq => cases heq
    · next heq =>
      obtain ⟨rfl, rfl⟩ := List.cons.inj heq
      exact hone _ fun _ => rfl
    · next heq =>
      obtain ⟨rfl, rfl⟩ := List.cons.inj heq
      exact hone _ fun _ => rfl
    · next heq =>
      obtain ⟨rfl, rfl⟩ := List.cons.inj heq
      obtain ⟨⟨head, after⟩, hhead, heq⟩ := Option.map_eq_some_iff.1 htoken
      obtain ⟨rfl, rfl⟩ := Prod.mk.inj heq
      obtain ⟨taken, rfl, htaken⟩ := extent_readGroupHead? hhead
      refine ⟨taken, rfl, fun rest' hlike => ?_⟩
      have hhead' := htaken rest' fun hplain => hlike (by rw [hplain]; rfl)
      show (readGroupHead? modes (taken ++ rest')).map _ = _
      rw [hhead', Option.map_some]
    · next heq =>
      obtain ⟨rfl, rfl⟩ := List.cons.inj heq
      have hclass := (hasExtent_readClass? modes).map (fun set => Token.item (.chars set) 1)
      exact (hclass htoken).before _
    · next heq =>
      obtain ⟨rfl, rfl⟩ := List.cons.inj heq
      exact htimes _ _ _ (Option.some.inj htoken)
    · next heq =>
      obtain ⟨rfl, rfl⟩ := List.cons.inj heq
      exact htimes _ _ _ (Option.some.inj htoken)
    · next heq =>
      obtain ⟨rfl, rfl⟩ := List.cons.inj heq
      exact htimes _ _ _ (Option.some.inj htoken)
    · next heq =>
      obtain ⟨rfl, rfl⟩ := List.cons.inj heq
      obtain ⟨⟨least, most, after⟩, hread, hfound⟩ := Option.map_eq_some_iff.1 htoken
      obtain ⟨taken, rfl, htaken⟩ := extent_readTimes? hread
      obtain ⟨marked, rfl, hmarked⟩ := htimes least most after hfound
      refine ⟨taken ++ marked, by simp, fun rest' hlike => ?_⟩
      show (readTimes? modes (taken ++ marked ++ rest')).map _ = _
      rw [List.append_assoc, htaken, Option.map_some]
      exact hmarked rest' hlike
    · next heq =>
      obtain ⟨rfl, rfl⟩ := List.cons.inj heq
      obtain ⟨dot, hdot, heq⟩ := Option.map_eq_some_iff.1 htoken
      refine hone (.item dot 0) fun t => ?_
      show modes.dot?.map _ = _
      rw [hdot, Option.map_some]
    · next heq =>
      obtain ⟨rfl, rfl⟩ := List.cons.inj heq
      exact hone _ fun _ => rfl
    · next heq =>
      obtain ⟨rfl, rfl⟩ := List.cons.inj heq
      exact hone _ fun _ => rfl
    · next heq =>
      obtain ⟨rfl, rfl⟩ := List.cons.inj heq
      obtain ⟨⟨e, after⟩, he, heq⟩ := Option.map_eq_some_iff.1 htoken
      obtain ⟨rfl, rfl⟩ := Prod.mk.inj heq
      obtain ⟨taken, rfl, htaken⟩ := extent_readEscape? he
      refine ⟨taken, rfl, fun rest' hlike => ?_⟩
      show (readEscape? modes (taken ++ rest')).map _ = _
      rw [htaken rest' fun _ => hlike trivial, Option.map_some]
    · next heq =>
      obtain ⟨rfl, rfl⟩ := List.cons.inj heq
      exact hone _ fun t => by rw [token?] <;> assumption

/-! ## Reading token by token -/

/-- The state after a group whose inner state is given. -/
def State.close (st inner : State) : State :=
  { st with names := inner.names }.add inner.tree (inner.depth + 1)

/-- The state in which a group is read. -/
def State.inner (st : State) (m : Modes) (name : Option (List Char)) : State :=
  { modes := m, names := name.toList ++ st.names }

/-- The state after a token that is no head and no end of a group. -/
def State.after? (st : State) : Token → Option State
  | .branch => some st.endBranch
  | .change m => some (st.change m)
  | .item tree depth => some (st.add tree depth)
  | .times least most => st.repeatLast? least most
  | .close | .opening _ _ => none

/-- Reads on after a token. -/
def readAfter? (fuel : Nat) (st : State) (rest : List Char) : Token → Option (State × List Char)
  | .close => some (st, ')' :: rest)
  | .opening m name =>
    if name.any st.names.contains then none
    else
      match readItems? fuel (st.inner m name) rest with
      | some (inner, ')' :: rest) => readItems? fuel (st.close inner) rest
      | _ => none
  | tok => (st.after? tok).bind fun st => readItems? fuel st rest

theorem State.modes_of_repeatLast? {st st' : State} {least : Nat} {most : Option Nat}
    (h : st.repeatLast? least most = some st') : st'.modes = st.modes := by
  unfold State.repeatLast? at h
  split at h
  · obtain rfl := Option.some.inj h
    rfl
  · cases h

/-- A repetition, as the reader goes on with it. -/
theorem readTimesThen?_eq (fuel : Nat) (st : State) (least : Nat) (most : Option Nat)
    (rest : List Char) :
    readItems?.readTimesThen? fuel st least most rest =
      readAfter? fuel st (dropLazyMark st.modes rest) (.times least most) := by
  rw [readItems?.readTimesThen?]
  show _ = (st.repeatLast? least most).bind _
  cases hst : st.repeatLast? least most with
  | none => rfl
  | some st' =>
    show readItems? fuel st' (dropLazyMark st'.modes rest) = readItems? fuel st' _
    rw [State.modes_of_repeatLast? hst]

/-- **The reader takes a token and goes on in the state after it.** -/
theorem readItems?_succ (fuel : Nat) (st : State) (s : List Char) :
    readItems? (fuel + 1) st s =
      match skipBlanks st.modes.spaced s with
      | [] => some (st, [])
      | c :: t =>
        (token? st.modes (c :: t)).bind fun found => readAfter? fuel st found.2 found.1 := by
  rw [readItems?]
  split
  · next hs => rw [hs]
  · next hs =>
    rw [hs]
    rfl
  · next hs =>
    rw [hs]
    rfl
  · next rest hs =>
    rw [hs]
    show _ = ((readGroupHead? st.modes rest).map _).bind _
    cases readGroupHead? st.modes rest with
    | none => rfl
    | some found =>
      obtain ⟨head, after⟩ := found
      cases head <;> rfl
  · next rest hs =>
    rw [hs]
    show _ = ((readClass? st.modes rest).map _).bind _
    cases readClass? st.modes rest <;> rfl
  · next rest hs =>
    rw [hs]
    exact readTimesThen?_eq ..
  · next rest hs =>
    rw [hs]
    exact readTimesThen?_eq ..
  · next rest hs =>
    rw [hs]
    exact readTimesThen?_eq ..
  · next rest hs =>
    rw [hs]
    show _ = ((readTimes? st.modes rest).map _).bind _
    cases readTimes? st.modes rest with
    | none => rfl
    | some found =>
      obtain ⟨least, most, after⟩ := found
      exact readTimesThen?_eq ..
  · next rest hs =>
    rw [hs]
    show _ = (st.modes.dot?.map _).bind _
    cases st.modes.dot? <;> rfl
  · next hs =>
    rw [hs]
    rfl
  · next hs =>
    rw [hs]
    rfl
  · next rest hs =>
    rw [hs]
    show _ = ((readEscape? st.modes rest).map _).bind _
    cases readEscape? st.modes rest with
    | none => rfl
    | some found =>
      obtain ⟨e, after⟩ := found
      cases e <;> rfl
  · next c rest _ _ _ _ _ _ _ _ _ _ _ _ hs =>
    rw [hs]
    dsimp only
    rw [token?]
    · rfl
    all_goals assumption

end ModelProbe.Pattern
