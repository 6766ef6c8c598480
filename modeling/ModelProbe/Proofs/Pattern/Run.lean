import ModelProbe.Proofs.Pattern.Token
/-!
# The reader of patterns as a machine

The reader of a pattern calls itself for every group. Seen from outside it goes step by step, each
one a token, with the states of the groups around at hand: a group's head puts one more state in
front of them, and its end takes one away.

* `Place`, `step?`: where the reader stands, and what one token does there.
* `reaches_of_readItems?`, `groupRead_of_ends`: what is read is what the steps lead to.
* `Tree.ofChars?_of_readsTo`: a pattern is a text that is read to its end outside all groups, and
  is neither nested too deeply nor too large.
-/

namespace ModelProbe.Pattern

/-! ## Steps -/

/-- Where the reader stands: in the current group, and in those around it, the nearest first. -/
structure Place where
  outer : List State
  current : State

namespace Place

/-- The place after a token. -/
def next? (p : Place) : Token → Option Place
  | .opening m name =>
    if name.any p.current.names.contains then none
    else some ⟨p.current :: p.outer, p.current.inner m name⟩
  | .close =>
    match p.outer with
    | [] => none
    | st :: outer => some ⟨outer, st.close p.current⟩
  | tok => (p.current.after? tok).map (⟨p.outer, ·⟩)

/-- The place where a pattern begins. -/
def start : Place := ⟨[], { modes := {}, names := [] }⟩

end Place

/-- What one token does to the place and to the text that is left. -/
def step? (p : Place × List Char) : Option (Place × List Char) :=
  match skipBlanks p.1.current.modes.spaced p.2 with
  | [] => none
  | c :: s =>
    (token? p.1.current.modes (c :: s)).bind fun found =>
      (p.1.next? found.1).map (·, found.2)

/-- The reader goes from one place in the text to another by a number of tokens. -/
def Reaches : Place × List Char → Place × List Char → Prop :=
  Relation.ReflTransGen fun p q => step? p = some q

theorem Reaches.refl (p : Place × List Char) : Reaches p p :=
  Relation.ReflTransGen.refl

theorem Reaches.head {p q r : Place × List Char} (hstep : step? p = some q) (h : Reaches q r) :
    Reaches p r :=
  Relation.ReflTransGen.head hstep h

theorem Reaches.trans {p q r : Place × List Char} (h : Reaches p q) (h' : Reaches q r) :
    Reaches p r :=
  Relation.ReflTransGen.trans h h'

/-- The reader is where it began, or has gone on from the next place. -/
theorem Reaches.cases {p q : Place × List Char} (h : Reaches p q) :
    p = q ∨ ∃ r, step? p = some r ∧ Reaches r q :=
  Relation.ReflTransGen.cases_head h

/-- What a step reads. -/
theorem step?_eq_some_iff {p q : Place} {s rest : List Char} :
    step? (p, s) = some (q, rest) ↔ ∃ c t tok,
      skipBlanks p.current.modes.spaced s = c :: t ∧
      token? p.current.modes (c :: t) = some (tok, rest) ∧ p.next? tok = some q := by
  constructor
  · intro h
    unfold step? at h
    split at h
    · cases h
    · next c t hs =>
      obtain ⟨⟨tok, r⟩, htok, hnext⟩ := Option.bind_eq_some_iff.1 h
      obtain ⟨p', hp', heq⟩ := Option.map_eq_some_iff.1 hnext
      obtain ⟨rfl, rfl⟩ := Prod.mk.inj heq
      exact ⟨c, t, tok, hs, htok, hp'⟩
  · rintro ⟨c, t, tok, hs, htok, hnext⟩
    unfold step?
    dsimp only
    rw [hs]
    dsimp only
    rw [htok, Option.bind_some, hnext, Option.map_some]

theorem step?_cons {p q : Place} {c : Char} {s rest : List Char} {tok : Token}
    (hc : Kept p.current.modes.spaced c)
    (htok : token? p.current.modes (c :: s) = some (tok, rest)) (hnext : p.next? tok = some q) :
    step? (p, c :: s) = some (q, rest) :=
  step?_eq_some_iff.2 ⟨c, s, tok, skipBlanks_cons hc s, htok, hnext⟩

/-- A step takes a character, and the blanks before it. -/
theorem length_of_step? {p q : Place} {s rest : List Char} (h : step? (p, s) = some (q, rest)) :
    rest.length < (skipBlanks p.current.modes.spaced s).length := by
  obtain ⟨c, t, tok, hs, htok, -⟩ := step?_eq_some_iff.1 h
  obtain ⟨d, u, hd, taken, rfl, -⟩ := extent_token? htok
  rw [hs, hd, List.length_cons, List.length_append]
  omega

theorem length_of_reaches {p q : Place × List Char} (h : Reaches p q) :
    q.2.length ≤ p.2.length := by
  induction h using Relation.ReflTransGen.head_induction_on with
  | refl => exact Nat.le_refl _
  | @head p r hstep _ ih =>
    obtain ⟨p, s⟩ := p
    obtain ⟨r, rest⟩ := r
    have hlt := length_of_step? hstep
    have hle := (skipBlanks_suffix p.current.modes.spaced s).length_le
    dsimp only at ih ⊢
    omega

/-! ## Steps and the reader -/

/-- A token that is neither a head nor an end changes the current state. -/
theorem readAfter?_of_ne {tok : Token} (hclose : tok ≠ .close)
    (hopen : ∀ m name, tok ≠ .opening m name) (fuel : Nat) (st : State) (rest : List Char) :
    readAfter? fuel st rest tok = (st.after? tok).bind fun st => readItems? fuel st rest := by
  cases tok with
  | close => exact absurd rfl hclose
  | opening m name => exact absurd rfl (hopen m name)
  | _ => rfl

theorem Place.next?_of_ne {tok : Token} (hclose : tok ≠ .close)
    (hopen : ∀ m name, tok ≠ .opening m name) (p : Place) :
    p.next? tok = (p.current.after? tok).map (⟨p.outer, ·⟩) := by
  cases tok with
  | close => exact absurd rfl hclose
  | opening m name => exact absurd rfl (hopen m name)
  | _ => rfl

/-- The only token that ends a group is its bracket. -/
theorem eq_of_token?_close {modes : Modes} {s rest : List Char}
    (h : token? modes s = some (.close, rest)) : s = ')' :: rest := by
  have hitem : ∀ {α : Type} {x : Option α} {tok : α → Token × List Char},
      x.map tok = some (.close, rest) → (∀ y, (tok y).1 ≠ .close) → s = ')' :: rest := by
    intro α x tok hx htok
    obtain ⟨y, -, hy⟩ := Option.map_eq_some_iff.1 hx
    exact absurd (congrArg Prod.fst hy) (htok y)
  unfold token? at h
  split at h
  · cases h
  · obtain ⟨-, rfl⟩ := Prod.mk.inj (Option.some.inj h)
    rfl
  · cases h
  · refine hitem h fun y => ?_
    obtain ⟨head, r⟩ := y
    cases head <;> exact Token.noConfusion
  · exact hitem h fun y => Token.noConfusion
  · cases h
  · cases h
  · cases h
  · exact hitem h fun y => Token.noConfusion
  · exact hitem h fun y => Token.noConfusion
  · cases h
  · cases h
  · exact hitem h fun y => Token.noConfusion
  · cases h

/-- **What is read is reached by steps**, in whatever groups. -/
theorem reaches_of_readItems? {fuel : Nat} {st st' : State} {s rest : List Char}
    (h : readItems? fuel st s = some (st', rest)) (outer : List State) :
    ∃ s', Reaches (⟨outer, st⟩, s) (⟨outer, st'⟩, s') ∧
      skipBlanks st'.modes.spaced s' = rest := by
  induction fuel generalizing st st' s rest outer with
  | zero =>
    rw [readItems?] at h
    cases h
  | succ fuel ih =>
    rw [readItems?_succ] at h
    split at h
    · next hs =>
      obtain ⟨rfl, rfl⟩ := Prod.mk.inj (Option.some.inj h)
      exact ⟨s, .refl _, hs⟩
    · next c t hs =>
      obtain ⟨⟨tok, r⟩, htok, hafter⟩ := Option.bind_eq_some_iff.1 h
      have hstep : ∀ q, (Place.mk outer st).next? tok = some q →
          step? (⟨outer, st⟩, s) = some (q, r) := fun q hq =>
        step?_eq_some_iff.2 ⟨c, t, tok, hs, htok, hq⟩
      cases tok with
      | close =>
        obtain ⟨rfl, rfl⟩ := Prod.mk.inj (Option.some.inj hafter)
        exact ⟨s, .refl _, by rw [hs, eq_of_token?_close htok]⟩
      | opening m name =>
        rw [readAfter?] at hafter
        split at hafter
        · cases hafter
        · next hname =>
          split at hafter
          · next inner r' hinner =>
            obtain ⟨s₁, hreach₁, hend₁⟩ := ih hinner (st :: outer)
            obtain ⟨s₂, hreach₂, hend₂⟩ := ih hafter outer
            have hopen : (Place.mk outer st).next? (.opening m name) =
                some ⟨st :: outer, st.inner m name⟩ := if_neg hname
            have hclose : step? (⟨st :: outer, inner⟩, s₁) = some (⟨outer, st.close inner⟩, r') :=
              step?_eq_some_iff.2 ⟨')', r', .close, hend₁, rfl, rfl⟩
            exact ⟨s₂, .head (hstep _ hopen) (hreach₁.trans (.head hclose hreach₂)), hend₂⟩
          · cases hafter
      | _ =>
        rw [readAfter?_of_ne (by rintro ⟨⟩) (by rintro m name ⟨⟩)] at hafter
        obtain ⟨st₁, hst₁, hread⟩ := Option.bind_eq_some_iff.1 hafter
        obtain ⟨s', hreach, hend⟩ := ih hread outer
        refine ⟨s', .head (hstep _ ?_) hreach, hend⟩
        rw [Place.next?_of_ne (by rintro ⟨⟩) (by rintro m name ⟨⟩), hst₁, Option.map_some]

/-- The reader, at the end of the text and outside all groups. -/
def Ends (st : State) (s : List Char) (p : Place × List Char) : Prop :=
  Reaches p (⟨[], st⟩, s) ∧ skipBlanks st.modes.spaced s = []

/-- The current group is read: to the end of the text, or to its bracket, from where the steps
lead to the end. -/
def GroupRead (st' : State) (s' : List Char) (p : Place) (s : List Char) : Prop :=
  (p.outer = [] ∧ ∀ fuel, s.length < fuel → readItems? fuel p.current s = some (st', [])) ∨
    ∃ st outer inner r, p.outer = st :: outer ∧ r.length < s.length ∧
      (∀ fuel, s.length < fuel → readItems? fuel p.current s = some (inner, ')' :: r)) ∧
      Ends st' s' (⟨outer, st.close inner⟩, r)

/-- A group is read where it is read from a later place in it. -/
theorem GroupRead.of_later {st' : State} {s' s r : List Char} {p q : Place}
    (h : GroupRead st' s' q r) (houter : q.outer = p.outer) (hlt : r.length < s.length)
    (hread : ∀ fuel, s.length < fuel → ∃ k, r.length < k ∧
      readItems? fuel p.current s = readItems? k q.current r) : GroupRead st' s' p s := by
  rcases h with ⟨hnil, hall⟩ | ⟨st, outer, inner, r', hcons, hr', hall, hends⟩
  · refine .inl ⟨houter ▸ hnil, fun fuel hfuel => ?_⟩
    obtain ⟨k, hk, heq⟩ := hread fuel hfuel
    rw [heq, hall k hk]
  · refine .inr ⟨st, outer, inner, r', houter ▸ hcons, by omega, fun fuel hfuel => ?_, hends⟩
    obtain ⟨k, hk, heq⟩ := hread fuel hfuel
    rw [heq, hall k hk]

/-- **Where the steps lead to the end, the current group is read.** -/
theorem groupRead_of_ends {st' : State} {s' : List Char} {p : Place} {s : List Char}
    (h : Ends st' s' (p, s)) : GroupRead st' s' p s := by
  -- By the length of the text that is left.
  induction hn : s.length using Nat.strongRecOn generalizing p s with
  | ind n ih =>
  subst hn
  obtain ⟨hreach, hend⟩ := h
  rcases hreach.cases with heq | ⟨⟨q, r⟩, hstep, hrest⟩
  · obtain ⟨rfl, rfl⟩ := Prod.mk.inj heq
    refine .inl ⟨rfl, fun fuel hfuel => ?_⟩
    obtain ⟨k, rfl⟩ := Nat.exists_eq_succ_of_ne_zero (Nat.ne_zero_of_lt hfuel)
    rw [Nat.succ_eq_add_one, readItems?_succ, hend]
  · have hlt : r.length < s.length :=
      Nat.lt_of_lt_of_le (length_of_step? hstep) (skipBlanks_suffix _ s).length_le
    have hq : GroupRead st' s' q r := ih r.length hlt ⟨hrest, hend⟩ rfl
    obtain ⟨c, t, tok, hs, htok, hnext⟩ := step?_eq_some_iff.1 hstep
    have hread : ∀ fuel, s.length < fuel → ∃ k, r.length < k ∧
        readItems? fuel p.current s = readAfter? k p.current r tok := by
      intro fuel hfuel
      obtain ⟨k, rfl⟩ := Nat.exists_eq_succ_of_ne_zero (Nat.ne_zero_of_lt hfuel)
      refine ⟨k, by omega, ?_⟩
      rw [Nat.succ_eq_add_one, readItems?_succ, hs]
      dsimp only
      rw [htok, Option.bind_some]
    cases tok with
    | close =>
      unfold Place.next? at hnext
      dsimp only at hnext
      split at hnext
      · cases hnext
      · next st outer houter =>
        obtain rfl := Option.some.inj hnext
        refine .inr ⟨st, outer, p.current, r, houter, hlt, fun fuel hfuel => ?_, hrest, hend⟩
        obtain ⟨k, hk, heq⟩ := hread fuel hfuel
        rw [heq, readAfter?]
    | opening m name =>
      unfold Place.next? at hnext
      dsimp only at hnext
      split at hnext
      · cases hnext
      · next hname =>
        obtain rfl := Option.some.inj hnext
        -- The group is read to its bracket, and then the rest of the group around it.
        rcases hq with ⟨houter, -⟩ | ⟨st, outer, inner, r', houter, hr', hall, hends⟩
        · cases houter
        · obtain ⟨rfl, rfl⟩ := List.cons.inj houter
          refine (ih r'.length (by omega) hends rfl).of_later rfl (by omega) fun fuel hfuel => ?_
          obtain ⟨k, hk, heq⟩ := hread fuel hfuel
          refine ⟨k, by omega, ?_⟩
          rw [heq, readAfter?, if_neg hname, hall k hk]
          rfl
    | _ =>
      rw [Place.next?_of_ne (by rintro ⟨⟩) (by rintro m name ⟨⟩)] at hnext
      obtain ⟨st₁, hst₁, rfl⟩ := Option.map_eq_some_iff.1 hnext
      refine hq.of_later rfl hlt fun fuel hfuel => ?_
      obtain ⟨k, hk, heq⟩ := hread fuel hfuel
      refine ⟨k, hk, ?_⟩
      rw [heq, readAfter?_of_ne (by rintro ⟨⟩) (by rintro m name ⟨⟩), hst₁, Option.bind_some]

/-- The text is read as a pattern, and this is the state at its end. -/
def ReadsTo (s : List Char) (st : State) : Prop :=
  ∃ s', Ends st s' (.start, s)

/-- **A text is read to its end exactly when the steps lead there.** -/
theorem readItems?_eq_some_iff {s : List Char} {st : State} :
    readItems? (s.length + 1) Place.start.current s = some (st, []) ↔ ReadsTo s st := by
  constructor
  · intro h
    exact reaches_of_readItems? h []
  · rintro ⟨s', h⟩
    rcases groupRead_of_ends h with ⟨-, hall⟩ | ⟨st, outer, inner, r, houter, -⟩
    · exact hall _ (Nat.lt_succ_self _)
    · cases houter

/-- **A pattern is a text that is read to its end**, and is neither nested too deeply nor too
large. -/
theorem Tree.ofChars?_of_readsTo {limit : Limit} {s : List Char} {st : State}
    (h : ReadsTo s st) :
    Tree.ofChars? limit s =
      if st.depth ≤ maxDepth && limit st.tree then some st.tree else none := by
  have hread := readItems?_eq_some_iff.2 h
  rw [Tree.ofChars?]
  rw [show Place.start.current = { modes := {}, names := [] } from rfl] at hread
  rw [hread]

/-- What is a pattern is read to its end. -/
theorem exists_readsTo_of_ofChars? {limit : Limit} {s : List Char} {tree : Tree}
    (h : Tree.ofChars? limit s = some tree) : ∃ st, ReadsTo s st ∧ st.tree = tree := by
  unfold Tree.ofChars? at h
  split at h
  · next st hread =>
    split at h
    · exact ⟨st, readItems?_eq_some_iff.1 hread, Option.some.inj h⟩
    · cases h
  · cases h

end ModelProbe.Pattern
