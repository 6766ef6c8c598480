import ModelProbe.Proofs.Json.NumberExtent
import ModelProbe.Proofs.Text.Trimming
/-!
# Where a JSON value ends

A value is read from its own characters: whatever follows it may be exchanged, and the same value
is read. Strings, arrays and objects say themselves where they end; of the other values a text
has to follow that can not go on with them.

* `hasExtent_readValue?`: every value that is read has its own characters.
* `ofChars?_trim_of_object`: a text of an object may be trimmed.
-/

namespace ModelProbe.Json

/-! ## Blanks -/

/-- Blanks in front of a text are skipped. -/
theorem skipSpace_append_of_spaces {w : List Char} (hw : ∀ c ∈ w, isSpace c = true)
    (s : List Char) : skipSpace (w ++ s) = skipSpace s :=
  List.dropWhile_append_of_pos hw

/-- A text that begins with no blank is left as it is. -/
theorem skipSpace_cons {c : Char} (hc : isSpace c = false) (s : List Char) :
    skipSpace (c :: s) = c :: s := by
  simp [skipSpace, hc]

/-- Skipping blanks in a joined text skips those of the first piece, unless it has only blanks. -/
theorem skipSpace_append (a b : List Char) :
    skipSpace (a ++ b) = if (skipSpace a).isEmpty then skipSpace b else skipSpace a ++ b :=
  List.dropWhile_append

/-- A text is its blanks in front and what is left without them. -/
theorem exists_spaces (s : List Char) :
    ∃ w, s = w ++ skipSpace s ∧ ∀ c ∈ w, isSpace c = true :=
  ⟨s.takeWhile isSpace, List.takeWhile_append_dropWhile.symm, fun _ hc =>
    List.all_eq_true.1 List.all_takeWhile _ hc⟩

/-- A text with nothing after its blanks has only blanks. -/
theorem isSpace_of_skipSpace_eq_nil {s : List Char} (h : skipSpace s = []) :
    ∀ c ∈ s, isSpace c = true := by
  obtain ⟨w, hw, hall⟩ := exists_spaces s
  rw [h, List.append_nil] at hw
  rw [hw]
  exact hall

/-- What is left without blanks begins with none. -/
theorem isSpace_of_skipSpace_eq_cons {s rest : List Char} {c : Char}
    (h : skipSpace s = c :: rest) : isSpace c = false := by
  have hhead := List.head?_dropWhile_not isSpace s
  rw [skipSpace] at h
  rw [h] at hhead
  simpa using hhead

/-- A text that has a character after its blanks begins with blanks and that character. -/
theorem exists_spaces_cons {s rest : List Char} {c : Char} (h : skipSpace s = c :: rest) :
    ∃ w, s = w ++ c :: rest ∧ ∀ rest', skipSpace (w ++ c :: rest') = c :: rest' := by
  obtain ⟨w, hs, hw⟩ := exists_spaces s
  refine ⟨w, by rw [← h]; exact hs, fun rest' => ?_⟩
  rw [skipSpace_append_of_spaces hw, skipSpace_cons (isSpace_of_skipSpace_eq_cons h)]

/-- Skipping blanks once more changes nothing. -/
@[simp] theorem skipSpace_skipSpace (s : List Char) : skipSpace (skipSpace s) = skipSpace s := by
  cases h : skipSpace s with
  | nil => rfl
  | cons c rest => exact skipSpace_cons (isSpace_of_skipSpace_eq_cons h) rest

/-! ## Strings -/

/-- An escape is read from its own characters. -/
theorem extent_readEscape? {s rest : List Char} {c : Char} (h : readEscape? s = some (c, rest)) :
    ∃ t, s = t ++ rest ∧ ∀ rest', readEscape? (t ++ rest') = some (c, rest') := by
  unfold readEscape? at h
  split at h
  · next a₁ a₂ a₃ a₄ r =>
    split at h
    · simp at h
    · next unit hunit =>
      split at h
      · simp at h
      · next hlow =>
        split at h
        · next hhigh =>
          -- The first unit opens a pair, so the characters of the second belong to the escape.
          split at h
          · next b₁ b₂ b₃ b₄ r' =>
            split at h
            · simp at h
            · next low hlow' =>
              split at h
              · next hpair =>
                simp only [Option.some.injEq, Prod.mk.injEq] at h
                obtain ⟨rfl, rfl⟩ := h
                refine ⟨['u', a₁, a₂, a₃, a₄, '\\', 'u', b₁, b₂, b₃, b₄], rfl, fun rest' => ?_⟩
                simp [readEscape?, hunit, hlow, hhigh, hlow', hpair]
              · simp at h
          · simp at h
        · next hhigh =>
          simp only [Option.some.injEq, Prod.mk.injEq] at h
          obtain ⟨rfl, rfl⟩ := h
          refine ⟨['u', a₁, a₂, a₃, a₄], rfl, fun rest' => ?_⟩
          simp [readEscape?, hunit, hlow, hhigh]
  · simp at h
  · next c' r _ hu =>
    rw [Option.map_eq_some_iff] at h
    obtain ⟨e, he, heq⟩ := h
    rw [Prod.mk.injEq] at heq
    obtain ⟨rfl, rfl⟩ := heq
    refine ⟨[c'], rfl, fun rest' => ?_⟩
    rw [List.singleton_append]
    unfold readEscape?
    split
    · next heq => exact absurd (List.cons.inj heq).1 hu
    · next heq => exact absurd (List.cons.inj heq).1 hu
    · next heq =>
      obtain ⟨rfl, rfl⟩ := List.cons.inj heq
      rw [he]
      rfl
    · next heq => cases heq
  · simp at h

/-- **The extent of a string.** The characters of a string are read up to its closing quote,
whatever follows. -/
theorem extent_readString? {s x rest : List Char} (h : readString? s = some (x, rest)) :
    ∃ t, s = t ++ '"' :: rest ∧ ∀ rest', readString? (t ++ '"' :: rest') = some (x, rest') := by
  fun_induction readString? s generalizing x rest with
  | case1 => simp at h
  | case2 cs =>
    simp only [Option.some.injEq, Prod.mk.injEq] at h
    obtain ⟨rfl, rfl⟩ := h
    exact ⟨[], rfl, fun rest' => by simp [readString?]⟩
  | case3 => simp at h
  | case4 cs e r he hq ih =>
    rw [Option.map_eq_some_iff] at h
    obtain ⟨⟨x', r'⟩, hx, heq⟩ := h
    rw [Prod.mk.injEq] at heq
    obtain ⟨rfl, rfl⟩ := heq
    obtain ⟨t, rfl, ht⟩ := ih hx
    obtain ⟨u, rfl, hu⟩ := extent_readEscape? he
    refine ⟨'\\' :: (u ++ t), by simp, fun rest' => ?_⟩
    rw [List.cons_append, List.append_assoc, readString?, if_neg hq, if_pos rfl]
    split
    · next hnone => rw [hu] at hnone; cases hnone
    · next e' r' hsome =>
      rw [hu, Option.some.injEq, Prod.mk.injEq] at hsome
      obtain ⟨rfl, rfl⟩ := hsome
      rw [ht]
      rfl
  | case5 => simp at h
  | case6 c cs hq hb hc ih =>
    rw [Option.map_eq_some_iff] at h
    obtain ⟨⟨x', r'⟩, hx, heq⟩ := h
    rw [Prod.mk.injEq] at heq
    obtain ⟨rfl, rfl⟩ := heq
    obtain ⟨t, rfl, ht⟩ := ih hx
    refine ⟨c :: t, rfl, fun rest' => ?_⟩
    rw [List.cons_append, readString?, if_neg hq, if_neg hb, if_neg hc, ht]
    rfl

/-! ## Values -/

/-- A string, an array or an object: its last character says that it ends. -/
def isClosed : Json → Bool
  | string _ | array _ | object _ => true
  | _ => false

/-- A value ends where this text follows. -/
def EndsBefore (v : Json) (rest : List Char) : Prop :=
  v.isClosed = true ∨ mayFollow rest = true

/-- What may follow a value stops a number. -/
theorem stops_of_mayFollow {rest : List Char} (h : mayFollow rest = true) :
    JsonNumber.Stops rest := by
  rcases rest with _ | ⟨c, rest⟩
  · simp [JsonNumber.Stops]
  · rw [JsonNumber.stops_cons_iff]
    simp [mayFollow, isSpace] at h
    rcases h with (((rfl | rfl) | rfl) | rfl) | rfl | rfl | rfl | rfl | rfl | rfl | rfl <;> decide

/-- A reader whose values have characters of their own. -/
def HasExtent (item : ItemReader) : Prop :=
  ∀ ⦃s v rest⦄, item s = some (v, rest) → EndsBefore v rest →
    ∃ t, s = t ++ rest ∧ ∀ rest', EndsBefore v rest' → item (t ++ rest') = some (v, rest')

/-- Before blanks and one of the signs of arrays and objects every value ends. -/
theorem mayFollow_of_skipSpace {s rest : List Char} {c : Char} (h : skipSpace s = c :: rest)
    (hc : mayFollow [c] = true) : mayFollow s = true := by
  rcases s with _ | ⟨d, s⟩
  · rfl
  · by_cases hd : isSpace d = true
    · simp [mayFollow, hd]
    · rw [skipSpace_cons (by simpa using hd), List.cons.injEq] at h
      rw [h.1]
      simpa [mayFollow] using hc

/-- A value and the sign after it are read from their own characters. -/
theorem HasExtent.followed {item : ItemReader} (hitem : HasExtent item) {s r more : List Char}
    {v : Json} {c : Char} (hv : item s = some (v, r)) (hr : skipSpace r = c :: more)
    (hc : mayFollow [c] = true) :
    ∃ t, s = t ++ c :: more ∧ ∀ more', ∃ r',
      item (t ++ c :: more') = some (v, r') ∧ skipSpace r' = c :: more' := by
  obtain ⟨t, rfl, ht⟩ := hitem hv (.inr (mayFollow_of_skipSpace hr hc))
  obtain ⟨w, rfl, hw⟩ := exists_spaces_cons hr
  refine ⟨t ++ w, by simp, fun more' => ⟨w ++ c :: more', ?_, hw more'⟩⟩
  rw [List.append_assoc]
  exact ht _ (.inr (mayFollow_of_skipSpace (hw more') hc))

/-- **The extent of an array's items.** The items are read up to the bracket, whatever follows. -/
theorem extent_readItems? {item : ItemReader} (hitem : HasExtent item) :
    ∀ {fuel : Nat} {s rest : List Char} {vs : List Json},
      readItems? item fuel s = some (vs, rest) →
      ∃ t, s = t ++ ']' :: rest ∧ ∀ fuel' rest', t.length < fuel' →
        readItems? item fuel' (t ++ ']' :: rest') = some (vs, rest') := by
  intro fuel
  induction fuel with
  | zero => intro s rest vs h; simp [readItems?] at h
  | succ fuel ih =>
    intro s rest vs h
    rw [readItems?] at h
    split at h
    · simp at h
    · next v r hv =>
      split at h
      · next more hmore =>
        rw [Option.map_eq_some_iff] at h
        obtain ⟨⟨vs', r'⟩, hvs, heq⟩ := h
        rw [Prod.mk.injEq] at heq
        obtain ⟨rfl, rfl⟩ := heq
        obtain ⟨t₁, rfl, ht₁⟩ := hitem.followed hv hmore rfl
        obtain ⟨t₂, rfl, ht₂⟩ := ih hvs
        refine ⟨t₁ ++ ',' :: t₂, by simp, fun fuel' rest' hfuel => ?_⟩
        obtain ⟨r, hfirst, hskip⟩ := ht₁ (t₂ ++ ']' :: rest')
        obtain ⟨k, rfl⟩ : ∃ k, fuel' = k + 1 := ⟨fuel' - 1, by omega⟩
        have hothers := ht₂ k rest' (by simp at hfuel; omega)
        simp only [List.append_assoc, List.cons_append, readItems?, hfirst, hskip, hothers]
        rfl
      · next more hmore =>
        simp only [Option.some.injEq, Prod.mk.injEq] at h
        obtain ⟨rfl, rfl⟩ := h
        obtain ⟨t, rfl, ht⟩ := hitem.followed hv hmore rfl
        refine ⟨t, rfl, fun fuel' rest' hfuel => ?_⟩
        obtain ⟨r, hlast, hskip⟩ := ht rest'
        obtain ⟨k, rfl⟩ : ∃ k, fuel' = k + 1 := ⟨fuel' - 1, by omega⟩
        simp only [readItems?, hlast, hskip]
      · simp at h

/-- A member's name is read from its own characters up to the colon. -/
theorem extent_readName? {s rest : List Char} {name : String}
    (h : readName? s = some (name, rest)) :
    ∃ t, s = t ++ rest ∧ ∀ rest', readName? (t ++ rest') = some (name, rest') := by
  unfold readName? at h
  split at h
  · next r hquote =>
    split at h
    · simp at h
    · next x r' hx =>
      split at h
      · next hcolon =>
        simp only [Option.some.injEq, Prod.mk.injEq] at h
        obtain ⟨rfl, rfl⟩ := h
        obtain ⟨t, rfl, ht⟩ := extent_readString? hx
        obtain ⟨w, rfl, hw⟩ := exists_spaces_cons hquote
        obtain ⟨w', rfl, hw'⟩ := exists_spaces_cons hcolon
        refine ⟨w ++ '"' :: (t ++ '"' :: (w' ++ [':'])), by simp, fun rest' => ?_⟩
        have hopen := hw (t ++ '"' :: (w' ++ ':' :: rest'))
        have hclose := ht (w' ++ ':' :: rest')
        simp only [List.append_assoc, List.cons_append, List.nil_append, readName?, hopen, hclose,
          hw' rest']
      · simp at h
  · simp at h

/-- **The extent of an object's members.** The members are read up to the brace, whatever
follows. -/
theorem extent_readMembers? {item : ItemReader} (hitem : HasExtent item) :
    ∀ {fuel : Nat} {s rest : List Char} {ms : List (String × Json)},
      readMembers? item fuel s = some (ms, rest) →
      ∃ t, s = t ++ '}' :: rest ∧ ∀ fuel' rest', t.length < fuel' →
        readMembers? item fuel' (t ++ '}' :: rest') = some (ms, rest') := by
  intro fuel
  induction fuel with
  | zero => intro s rest ms h; simp [readMembers?] at h
  | succ fuel ih =>
    intro s rest ms h
    rw [readMembers?] at h
    split at h
    · simp at h
    · next name r hname =>
      obtain ⟨t₀, rfl, ht₀⟩ := extent_readName? hname
      split at h
      · simp at h
      · next v r' hv =>
        split at h
        · next more hmore =>
          rw [Option.map_eq_some_iff] at h
          obtain ⟨⟨ms', r''⟩, hms, heq⟩ := h
          rw [Prod.mk.injEq] at heq
          obtain ⟨rfl, rfl⟩ := heq
          obtain ⟨t₁, rfl, ht₁⟩ := hitem.followed hv hmore rfl
          obtain ⟨t₂, rfl, ht₂⟩ := ih hms
          refine ⟨t₀ ++ (t₁ ++ ',' :: t₂), by simp, fun fuel' rest' hfuel => ?_⟩
          obtain ⟨r, hfirst, hskip⟩ := ht₁ (t₂ ++ '}' :: rest')
          obtain ⟨k, rfl⟩ : ∃ k, fuel' = k + 1 := ⟨fuel' - 1, by omega⟩
          have hothers := ht₂ k rest' (by simp at hfuel; omega)
          simp only [List.append_assoc, List.cons_append, readMembers?, ht₀, hfirst, hskip,
            hothers]
          rfl
        · next more hmore =>
          simp only [Option.some.injEq, Prod.mk.injEq] at h
          obtain ⟨rfl, rfl⟩ := h
          obtain ⟨t, rfl, ht⟩ := hitem.followed hv hmore rfl
          refine ⟨t₀ ++ t, by simp, fun fuel' rest' hfuel => ?_⟩
          obtain ⟨r, hlast, hskip⟩ := ht rest'
          obtain ⟨k, rfl⟩ : ∃ k, fuel' = k + 1 := ⟨fuel' - 1, by omega⟩
          simp only [List.append_assoc, readMembers?, ht₀, hlast, hskip]
        · simp at h

/-- A number that is read begins with a digit or a minus. -/
theorem head_of_read? {s rest : List Char} {n : JsonNumber}
    (h : JsonNumber.read? s = some (n, rest)) :
    ∃ c more, s = c :: more ∧ (c = '-' ∨ c.isDigit = true) := by
  unfold JsonNumber.read? at h
  split at h
  · exact ⟨_, _, rfl, .inl rfl⟩
  · rcases s with _ | ⟨c, more⟩
    · simp [JsonNumber.readUnsigned?] at h
    · refine ⟨c, more, rfl, .inr ?_⟩
      cases hc : c.isDigit with
      | true => rfl
      | false => simp [JsonNumber.readUnsigned?, hc] at h

/-- The text of an array or object goes on as before when what follows is exchanged. -/
theorem head_skipSpace_append {t x y : List Char} {c : Char}
    (h : (skipSpace (t ++ c :: x)).head? ≠ some c) (hc : isSpace c = false) :
    (skipSpace (t ++ c :: y)).head? ≠ some c := by
  rw [skipSpace_append] at h ⊢
  split at h
  · simp [skipSpace_cons hc] at h
  · next hne =>
    rw [if_neg hne]
    cases hs : skipSpace t with
    | nil => simp [hs] at hne
    | cons d s => simpa [hs] using h

/-- A text that begins with a digit or a minus is read as a number. -/
theorem readValue?_number {depth : Nat} {s more : List Char} {c : Char}
    (h : skipSpace s = c :: more) (hc : c = '-' ∨ c.isDigit = true) :
    readValue? depth s = (JsonNumber.read? (c :: more)).map fun x => (number x.1, x.2) := by
  rw [readValue?.eq_def]
  dsimp only
  rw [h]
  rcases hc with rfl | hc
  · rfl
  · split
    all_goals first
      | rfl
      | (next heq => obtain ⟨rfl, -⟩ := List.cons.inj heq; exact absurd hc (by decide))

/-- How values between an opening and a closing sign are read: there are none, or an inner reader
reads them up to the closing sign. -/
structure Enclosed {α : Type} (opening closing : Char)
    (inner : Nat → List Char → Option (α × List Char)) (make : α → Json) (empty : Json)
    (outer : ItemReader) : Prop where
  closing_sign : isSpace closing = false
  read_none : ∀ {s r rest : List Char}, skipSpace s = opening :: r →
    skipSpace r = closing :: rest → outer s = some (empty, rest)
  read_inner : ∀ {s r : List Char}, skipSpace s = opening :: r →
    (skipSpace r).head? ≠ some closing →
    outer s = (inner (r.length + 1) r).map fun x => (make x.1, x.2)
  inner_extent : ∀ {fuel : Nat} {s rest : List Char} {x : α}, inner fuel s = some (x, rest) →
    ∃ t, s = t ++ closing :: rest ∧ ∀ fuel' rest', t.length < fuel' →
      inner fuel' (t ++ closing :: rest') = some (x, rest')

/-- **The extent of what is enclosed.** It is read up to its closing sign, whatever follows. -/
theorem Enclosed.extent {α : Type} {opening closing : Char}
    {inner : Nat → List Char → Option (α × List Char)} {make : α → Json} {empty : Json}
    {outer : ItemReader} (he : Enclosed opening closing inner make empty outer)
    {s r rest : List Char} {v : Json} (hs : skipSpace s = opening :: r)
    (h : outer s = some (v, rest)) :
    ∃ t, s = t ++ closing :: rest ∧
      ∀ rest', outer (t ++ closing :: rest') = some (v, rest') := by
  obtain ⟨w, rfl, hw⟩ := exists_spaces_cons hs
  by_cases hr : (skipSpace r).head? = some closing
  · obtain ⟨more, hr⟩ := List.head?_eq_some_iff.1 hr
    rw [he.read_none hs hr, Option.some.injEq, Prod.mk.injEq] at h
    obtain ⟨rfl, rfl⟩ := h
    obtain ⟨w', rfl, hw'⟩ := exists_spaces_cons hr
    refine ⟨w ++ opening :: w', by simp, fun rest' => ?_⟩
    rw [List.append_assoc, List.cons_append]
    exact he.read_none (hw _) (hw' rest')
  · rw [he.read_inner hs hr, Option.map_eq_some_iff] at h
    obtain ⟨⟨x, r'⟩, hx, heq⟩ := h
    rw [Prod.mk.injEq] at heq
    obtain ⟨rfl, rfl⟩ := heq
    obtain ⟨t, rfl, ht⟩ := he.inner_extent hx
    refine ⟨w ++ opening :: t, by simp, fun rest' => ?_⟩
    have hhead := head_skipSpace_append (y := rest') hr he.closing_sign
    rw [List.append_assoc, List.cons_append, he.read_inner (hw _) hhead,
      ht _ rest' (by simp only [List.length_append, List.length_cons]; omega)]
    rfl

/-- An array's items are enclosed in brackets. -/
theorem enclosed_items {depth : Nat} (h : HasExtent (readValue? depth)) :
    Enclosed '[' ']' (readItems? (readValue? depth)) array (array []) (readValue? (depth + 1)) where
  closing_sign := by decide
  read_none := by
    intro s r rest hs hr
    rw [readValue?.eq_def]
    simp only [hs, hr]
  read_inner := by
    intro s r hs hr
    rw [readValue?.eq_def]
    simp only [hs]
    split
    · next heq => rw [heq] at hr; exact absurd rfl hr
    · rfl
  inner_extent := extent_readItems? h

/-- An object's members are enclosed in braces. -/
theorem enclosed_members {depth : Nat} (h : HasExtent (readValue? depth)) :
    Enclosed '{' '}' (readMembers? (readValue? depth)) ofMembers (object [])
      (readValue? (depth + 1)) where
  closing_sign := by decide
  read_none := by
    intro s r rest hs hr
    rw [readValue?.eq_def]
    simp only [hs, hr]
  read_inner := by
    intro s r hs hr
    rw [readValue?.eq_def]
    simp only [hs]
    split
    · next heq => rw [heq] at hr; exact absurd rfl hr
    · rfl
  inner_extent := extent_readMembers? h

/-- An object is read from its own characters, which end with its brace, when its members are
read from theirs. -/
theorem extent_braced {depth : Nat} {s r rest : List Char} {v : Json}
    (ih : ∀ d, depth = d + 1 → HasExtent (readValue? d)) (hs : skipSpace s = '{' :: r)
    (h : readValue? depth s = some (v, rest)) :
    ∃ t, s = t ++ '}' :: rest ∧
      ∀ rest', readValue? depth (t ++ '}' :: rest') = some (v, rest') := by
  rcases depth with _ | d
  · rw [readValue?.eq_def] at h
    simp [hs] at h
  · exact (enclosed_members (ih d rfl)).extent hs h

/-- An array is read from its own characters, which end with its bracket, when its items are read
from theirs. -/
theorem extent_bracketed {depth : Nat} {s r rest : List Char} {v : Json}
    (ih : ∀ d, depth = d + 1 → HasExtent (readValue? d)) (hs : skipSpace s = '[' :: r)
    (h : readValue? depth s = some (v, rest)) :
    ∃ t, s = t ++ ']' :: rest ∧
      ∀ rest', readValue? depth (t ++ ']' :: rest') = some (v, rest') := by
  rcases depth with _ | d
  · rw [readValue?.eq_def] at h
    simp [hs] at h
  · exact (enclosed_items (ih d rfl)).extent hs h

/-- One of the words that are values, read after blanks. -/
theorem extent_word (word : List Char) {depth : Nat} {s rest : List Char} {c : Char} {v : Json}
    (hs : skipSpace s = c :: word ++ rest)
    (hword : ∀ rest' s', skipSpace s' = c :: word ++ rest' →
      readValue? depth s' = some (v, rest')) :
    ∃ t, s = t ++ rest ∧
      ∀ rest', EndsBefore v rest' → readValue? depth (t ++ rest') = some (v, rest') := by
  obtain ⟨w, rfl, hw⟩ := exists_spaces_cons hs
  refine ⟨w ++ c :: word, by simp, fun rest' _ => hword rest' _ ?_⟩
  rw [List.append_assoc]
  exact hw (word ++ rest')

/-- A value is read from its own characters, when the values inside it are. -/
theorem hasExtent_of_inner (depth : Nat)
    (ih : ∀ d, depth = d + 1 → HasExtent (readValue? d)) : HasExtent (readValue? depth) := by
  intro s v rest h hends
  have hread := h
  rw [readValue?.eq_def] at h
  dsimp only at h
  split at h
  · next r hs =>
    simp only [Option.some.injEq, Prod.mk.injEq] at h
    obtain ⟨rfl, rfl⟩ := h
    exact extent_word ['u', 'l', 'l'] hs fun _ _ h => by rw [readValue?.eq_def]; simp [h]
  · next r hs =>
    simp only [Option.some.injEq, Prod.mk.injEq] at h
    obtain ⟨rfl, rfl⟩ := h
    exact extent_word ['r', 'u', 'e'] hs fun _ _ h => by rw [readValue?.eq_def]; simp [h]
  · next r hs =>
    simp only [Option.some.injEq, Prod.mk.injEq] at h
    obtain ⟨rfl, rfl⟩ := h
    exact extent_word ['a', 'l', 's', 'e'] hs fun _ _ h => by
      rw [readValue?.eq_def]; simp [h]
  · next r hs =>
    rw [Option.map_eq_some_iff] at h
    obtain ⟨⟨x, r'⟩, hx, heq⟩ := h
    rw [Prod.mk.injEq] at heq
    obtain ⟨rfl, rfl⟩ := heq
    obtain ⟨w, rfl, hw⟩ := exists_spaces_cons hs
    obtain ⟨t, rfl, ht⟩ := extent_readString? hx
    refine ⟨w ++ '"' :: (t ++ ['"']), by simp, fun rest' _ => ?_⟩
    rw [readValue?.eq_def]
    simp [hw, ht]
  · next r hs =>
    obtain ⟨t, rfl, ht⟩ := extent_bracketed ih hs hread
    exact ⟨t ++ [']'], by simp, fun rest' _ => by simpa using ht rest'⟩
  · next r hs =>
    obtain ⟨t, rfl, ht⟩ := extent_braced ih hs hread
    exact ⟨t ++ ['}'], by simp, fun rest' _ => by simpa using ht rest'⟩
  · rw [Option.map_eq_some_iff] at h
    obtain ⟨⟨n, r'⟩, hn, heq⟩ := h
    rw [Prod.mk.injEq] at heq
    obtain ⟨rfl, rfl⟩ := heq
    have stops : ∀ {r : List Char}, EndsBefore (number n) r → JsonNumber.Stops r :=
      fun h => stops_of_mayFollow (h.resolve_left (by simp [isClosed]))
    obtain ⟨c, more, hs, hc⟩ := head_of_read? hn
    obtain ⟨t, ht, hext⟩ := JsonNumber.extent_read? hn (stops hends)
    rcases t with _ | ⟨d, t⟩
    · exact absurd (hext [] (by simp [JsonNumber.Stops])) (by simp [JsonNumber.read?,
        JsonNumber.readUnsigned?])
    · rw [hs, List.cons_append, List.cons.injEq] at ht
      obtain ⟨rfl, rfl⟩ := ht
      obtain ⟨w, rfl, hw⟩ := exists_spaces_cons hs
      refine ⟨w ++ c :: t, by simp, fun rest' hrest' => ?_⟩
      rw [List.append_assoc, List.cons_append, readValue?_number (hw (t ++ rest')) hc]
      have hnumber := hext rest' (stops hrest')
      rw [List.cons_append] at hnumber
      rw [hnumber]
      rfl

/-- **The extent of a value.** Every value that is read has characters of its own. -/
theorem hasExtent_readValue? (depth : Nat) : HasExtent (readValue? depth) := by
  induction depth with
  | zero => exact hasExtent_of_inner 0 fun d hd => absurd hd (by omega)
  | succ depth ih =>
    refine hasExtent_of_inner (depth + 1) fun d hd => ?_
    obtain rfl : depth = d := by omega
    exact ih

/-! ## Objects as documents -/

/-- Every blank of JSON is a blank. -/
theorem isBlank_of_isSpace {c : Char} (h : isSpace c = true) : Text.isBlank c = true := by
  simp only [isSpace, Bool.or_eq_true, beq_iff_eq] at h
  rcases h with ((rfl | rfl) | rfl) | rfl <;> decide

/-- A text of JSON's blanks is blank. -/
theorem isBlankText_of_spaces {w : List Char} (hw : ∀ c ∈ w, isSpace c = true) :
    Text.isBlankText w = true :=
  List.all_eq_true.2 fun c hc => isBlank_of_isSpace (hw c hc)

/-- Blanks in front do not count for a value. -/
theorem readValue?_skipSpace (depth : Nat) (s : List Char) :
    readValue? depth (skipSpace s) = readValue? depth s := by
  rw [readValue?.eq_def, readValue?.eq_def depth s]
  simp only [skipSpace_skipSpace]

/-- An object is written from a brace on, and its members are listed by name. -/
theorem braced_of_readValue?_object {depth : Nat} {s rest : List Char}
    {ms : List (String × Json)} (h : readValue? depth s = some (object ms, rest)) :
    ∃ (r : List Char) (m : JsonObject), skipSpace s = '{' :: r ∧ ms = m.toList := by
  rw [readValue?.eq_def] at h
  dsimp only at h
  split at h
  · simp at h
  · simp at h
  · simp at h
  · simp at h
  · rcases depth with _ | d
    · simp at h
    · dsimp only at h
      split at h <;> simp at h
  · next r hs =>
    rcases depth with _ | d
    · simp at h
    · dsimp only at h
      split at h
      · simp only [Option.some.injEq, Prod.mk.injEq, object.injEq] at h
        exact ⟨r, .empty, hs, h.1.symm⟩
      · rw [Option.map_eq_some_iff] at h
        obtain ⟨⟨ms', r'⟩, -, heq⟩ := h
        simp only [ofMembers, Prod.mk.injEq, object.injEq] at heq
        exact ⟨r, SortedMap.ofList ms', hs, heq.1.symm⟩
  · simp at h

/-- A text holds one value when a value is read and only blanks are left. -/
theorem ofChars?_eq_some_iff {s : List Char} {v : Json} :
    ofChars? s = some v ↔
      ∃ rest, readValue? maxDepth s = some (v, rest) ∧ skipSpace rest = [] := by
  rw [ofChars?]
  cases hread : readValue? maxDepth s with
  | none => simp
  | some x =>
    obtain ⟨w, rest⟩ := x
    simp only [List.isEmpty_iff, Option.some.injEq, Prod.mk.injEq, Option.ite_none_right_eq_some]
    constructor
    · rintro ⟨hrest, rfl⟩
      exact ⟨rest, ⟨rfl, rfl⟩, hrest⟩
    · rintro ⟨rest', ⟨rfl, rfl⟩, hrest⟩
      exact ⟨hrest, rfl⟩

/-- **An object's text may be trimmed.** The trimmed text is a text of the same object and begins
with its brace. -/
theorem ofChars?_trim_of_object {s : List Char} {ms : List (String × Json)}
    (h : ofChars? s = some (object ms)) :
    ofChars? (Text.trim s) = some (object ms) ∧ ∃ r, Text.trim s = '{' :: r := by
  obtain ⟨rest, hv, hrest⟩ := ofChars?_eq_some_iff.1 h
  obtain ⟨r, -, hr, -⟩ := braced_of_readValue?_object hv
  obtain ⟨w, hs, hw⟩ := exists_spaces s
  have hrspaces := isBlankText_of_spaces (isSpace_of_skipSpace_eq_nil hrest)
  -- The object's own characters begin with its brace once the blanks in front are gone.
  rw [← readValue?_skipSpace] at hv
  obtain ⟨t, ht, hext⟩ := extent_braced (fun d _ => hasExtent_readValue? d)
    (by rw [skipSpace_skipSpace]; exact hr) hv
  have htrim : Text.trim s = t ++ ['}'] := by
    calc Text.trim s = Text.trim (skipSpace s) := by
          rw [hs, Text.trim_append_of_blank_left (isBlankText_of_spaces hw),
            skipSpace_append_of_spaces hw, skipSpace_skipSpace]
      _ = Text.trimEnd (skipSpace s) := by
          rw [hr, Text.trim, Text.trimStart_cons (by decide)]
      _ = Text.trimEnd ((t ++ ['}']) ++ rest) := by rw [ht]; simp
      _ = t ++ ['}'] := by
          rw [Text.trimEnd_append_of_blank _ hrspaces, Text.trimEnd_concat _ (by decide)]
  refine ⟨ofChars?_eq_some_iff.2 ⟨[], ?_, rfl⟩, ?_⟩
  · rw [htrim]
    exact hext []
  · rw [hr] at ht
    rcases t with _ | ⟨c, t⟩
    · simp at ht
    · rw [List.cons_append, List.cons.injEq] at ht
      exact ⟨t ++ ['}'], by rw [htrim, ht.1]; rfl⟩

/-- The members of an object that is read are listed by name. -/
theorem exists_map_of_ofChars?_object {s : List Char} {ms : List (String × Json)}
    (h : ofChars? s = some (object ms)) : ∃ m : JsonObject, ms = m.toList := by
  obtain ⟨rest, hv, -⟩ := ofChars?_eq_some_iff.1 h
  obtain ⟨-, m, -, hm⟩ := braced_of_readValue?_object hv
  exact ⟨m, hm⟩

/-- Blanks around an object's text do not count. -/
theorem ofChars?_trim_spaced {lead s trail : List Char} {ms : List (String × Json)}
    (h : ofChars? s = some (object ms)) (hlead : ∀ c ∈ lead, isSpace c = true)
    (htrail : ∀ c ∈ trail, isSpace c = true) :
    ofChars? (Text.trim (lead ++ s ++ trail)) = some (object ms) ∧
      ∃ r, Text.trim (lead ++ s ++ trail) = '{' :: r := by
  rw [Text.trim_append_of_blank_right _ (isBlankText_of_spaces htrail),
    Text.trim_append_of_blank_left (isBlankText_of_spaces hlead)]
  exact ofChars?_trim_of_object h

end ModelProbe.Json
