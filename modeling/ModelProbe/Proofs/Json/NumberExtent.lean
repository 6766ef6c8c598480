import ModelProbe.Json.Reader
/-!
# Where a JSON number ends

A number is read from its own characters: a text that cannot go on with the number may be put
after it, or taken away, and the same number is read.

* `extent_read?`: the characters that a number is read from.
-/

namespace ModelProbe.JsonNumber

/-- The characters that numbers are written with. -/
def isNumberChar (c : Char) : Bool := c.isDigit || "+-.eE".toList.contains c

/-- A text that no number goes on with. -/
def Stops (rest : List Char) : Prop := ∀ c ∈ rest.head?, isNumberChar c = false

/-- The empty text and the texts that begin with no character of numbers stop a number. -/
theorem stops_cons_iff (c : Char) (rest : List Char) :
    Stops (c :: rest) ↔ isNumberChar c = false := by
  simp [Stops]

/-- A text that stops a number is empty or begins with none of its characters. -/
theorem Stops.cases {rest : List Char} (h : Stops rest) :
    rest = [] ∨ ∃ c more, rest = c :: more ∧ c.isDigit = false ∧
      c ≠ '+' ∧ c ≠ '-' ∧ c ≠ '.' ∧ c ≠ 'e' ∧ c ≠ 'E' := by
  cases rest with
  | nil => exact .inl rfl
  | cons c more =>
    rw [stops_cons_iff] at h
    simp [isNumberChar] at h
    exact .inr ⟨c, more, rfl, h.1, h.2⟩

/-! ## What stands after the digits -/

/-- Digits are taken from the text before the stop. -/
theorem takeDigits_append (p : List Char) {r : List Char} (hr : Stops r) :
    ∀ m k, takeDigits m k (p ++ r) =
      ((takeDigits m k p).1, (takeDigits m k p).2.1, (takeDigits m k p).2.2 ++ r) := by
  induction p with
  | nil =>
    intro m k
    rcases hr.cases with rfl | ⟨c, more, rfl, hc, -⟩
    · rfl
    · simp [takeDigits, hc]
  | cons c p ih =>
    intro m k
    rw [List.cons_append, takeDigits, takeDigits]
    dsimp only
    split
    · split
      · exact ih _ _
      · rfl
    · rfl

/-- A run of digits ends at the stop at the latest. -/
theorem takeWhile_isDigit_append (p : List Char) {r : List Char} (hr : Stops r) :
    (p ++ r).takeWhile Char.isDigit = p.takeWhile Char.isDigit := by
  induction p with
  | nil =>
    rcases hr.cases with rfl | ⟨c, more, rfl, hc, -⟩
    · rfl
    · simp [hc]
  | cons c p ih => by_cases hc : c.isDigit = true <;> simp [hc, ih]

/-- What follows a run of digits goes on with the stop. -/
theorem dropWhile_isDigit_append (p : List Char) {r : List Char} (hr : Stops r) :
    (p ++ r).dropWhile Char.isDigit = p.dropWhile Char.isDigit ++ r := by
  induction p with
  | nil =>
    rcases hr.cases with rfl | ⟨c, more, rfl, hc, -⟩
    · rfl
    · simp [hc]
  | cons c p ih => by_cases hc : c.isDigit = true <;> simp [hc, ih]

/-- The rest after some digits is the end of the text. -/
theorem suffix_takeDigits (s : List Char) : ∀ m k, (takeDigits m k s).2.2 <:+ s := by
  induction s with
  | nil => intro m k; exact List.suffix_rfl
  | cons c s ih =>
    intro m k
    rw [takeDigits]
    dsimp only
    split
    · split
      · exact (ih _ _).trans (List.suffix_cons c s)
      · exact List.suffix_rfl
    · exact List.suffix_rfl

/-! ## Exponents -/

/-- An exponent is read from the text before the stop. -/
theorem readExponent?_append (p : List Char) {r : List Char} (hr : Stops r) :
    readExponent? (p ++ r) = (readExponent? p).map fun x => (x.1, x.2 ++ r) := by
  rcases p with _ | ⟨c, p⟩
  · rcases hr.cases with rfl | ⟨c, more, rfl, hc, hplus, hminus, -⟩
    · rfl
    · simp [readExponent?, hplus, hminus, hc]
  · by_cases hplus : c = '+'
    · subst hplus
      simp only [readExponent?, List.cons_append, takeWhile_isDigit_append p hr,
        dropWhile_isDigit_append p hr]
      split <;> rfl
    · by_cases hminus : c = '-'
      · subst hminus
        simp only [readExponent?, List.cons_append, takeWhile_isDigit_append p hr,
          dropWhile_isDigit_append p hr]
        split <;> rfl
      · have hw := takeWhile_isDigit_append (c :: p) hr
        have hd := dropWhile_isDigit_append (c :: p) hr
        rw [List.cons_append] at hw hd
        simp [readExponent?, hplus, hminus, hw, hd]
        split <;> rfl

/-- The rest after an exponent is the end of the text. -/
theorem suffix_readExponent? {s rest : List Char} {e : Int}
    (h : readExponent? s = some (e, rest)) : rest <:+ s := by
  have digits : ∀ (x : Int) (ds : List Char),
      (if (ds.takeWhile Char.isDigit).isEmpty then none
        else some (x, ds.dropWhile Char.isDigit)) = some (e, rest) → rest <:+ ds := by
    intro x ds h
    split at h
    · simp at h
    · simp only [Option.some.injEq, Prod.mk.injEq] at h
      rw [← h.2]
      exact List.dropWhile_suffix _
  unfold readExponent? at h
  split at h
  next negative ds hsign =>
    refine (digits _ _ h).trans ?_
    split at hsign <;> cases hsign
    · exact List.suffix_cons _ _
    · exact List.suffix_cons _ _
    · exact List.suffix_rfl

/-- A number is finished with the text before the stop. -/
theorem finish?_append (negative : Bool) (m : Nat) (e : Int) (p : List Char) {r : List Char}
    (hr : Stops r) :
    finish? negative m e (p ++ r) =
      (finish? negative m e p).map fun x => (x.1, x.2 ++ r) := by
  rcases p with _ | ⟨c, p⟩
  · rcases hr.cases with rfl | ⟨c, more, rfl, -, -, -, -, he, hE⟩
    · cases h : ofParts? negative m e <;> simp [finish?, h]
    · cases h : ofParts? negative m e <;> simp [finish?, h, he, hE]
  · by_cases he : c = 'e' ∨ c = 'E'
    · have exponent : ∀ x : Option (Int × List Char),
          ((x.map fun y => (y.1, y.2 ++ r)).bind fun y =>
            (ofParts? negative m (e + y.1)).bind fun n => some (n, y.2)) =
          (x.bind fun y => (ofParts? negative m (e + y.1)).bind fun n => some (n, y.2)).map
            fun y => (y.1, y.2 ++ r) := by
        intro x
        rcases x with _ | ⟨more, rest⟩
        · rfl
        · cases h : ofParts? negative m (e + more) <;> simp [h]
      have := exponent (readExponent? p)
      rw [← readExponent?_append p hr] at this
      rcases he with rfl | rfl
      · exact this
      · exact this
    · rw [not_or] at he
      cases h : ofParts? negative m e <;> simp [finish?, h, he.1, he.2]

/-- The rest after a finished number is the end of the text. -/
theorem suffix_finish? {negative : Bool} {m : Nat} {e : Int} {s rest : List Char}
    {n : JsonNumber} (h : finish? negative m e s = some (n, rest)) : rest <:+ s := by
  have exponent : ∀ rest' : List Char,
      ((readExponent? rest').bind fun y =>
        (ofParts? negative m (e + y.1)).bind fun n => some (n, y.2)) = some (n, rest) →
      rest <:+ rest' := by
    intro rest' h
    simp only [Option.bind_eq_some_iff, Option.some.injEq, Prod.mk.injEq] at h
    obtain ⟨⟨more, last⟩, he, -, -, -, rfl⟩ := h
    exact suffix_readExponent? he
  unfold finish? at h
  split at h
  · exact (exponent _ h).trans (List.suffix_cons _ _)
  · exact (exponent _ h).trans (List.suffix_cons _ _)
  · cases hn : ofParts? negative m e with
    | none => simp [hn] at h
    | some n =>
      simp only [hn] at h
      cases h
      exact List.suffix_rfl

/-! ## Numbers -/

/-- What stands after the digits before the point is read from the text before the stop. -/
theorem readFraction?_append (negative : Bool) (m extra : Nat) (p : List Char) {r : List Char}
    (hr : Stops r) :
    readFraction? negative m extra (p ++ r) =
      (readFraction? negative m extra p).map fun x => (x.1, x.2 ++ r) := by
  have whole : ∀ q : List Char,
      (if extra = 0 then (ofInteger? negative m).bind fun n => some (n, q ++ r)
        else finish? negative m extra (q ++ r)) =
      (if extra = 0 then (ofInteger? negative m).bind fun n => some (n, q)
        else finish? negative m extra q).map fun x => (x.1, x.2 ++ r) := by
    intro q
    split
    · cases ofInteger? negative m <;> rfl
    · exact finish?_append negative m extra q hr
  rcases p with _ | ⟨c, p⟩
  · rcases hr.cases with rfl | ⟨c, more, rfl, -, -, -, hdot, he, hE⟩
    · exact whole []
    · simpa [readFraction?, hdot, he, hE] using whole []
  · by_cases hdot : c = '.'
    · subst hdot
      have hhead : (p ++ r).head?.any Char.isDigit = p.head?.any Char.isDigit := by
        rcases p with _ | ⟨d, p⟩
        · rcases hr.cases with rfl | ⟨c, more, rfl, hc, -⟩
          · rfl
          · simp [hc]
        · rfl
      simp only [readFraction?, List.cons_append, hhead, takeDigits_append p hr,
        dropWhile_isDigit_append _ hr, finish?_append _ _ _ _ hr]
      split <;> rfl
    · by_cases he : c = 'e' ∨ c = 'E'
      · rcases he with rfl | rfl
        · exact finish?_append negative m extra ('e' :: p) hr
        · exact finish?_append negative m extra ('E' :: p) hr
      · rw [not_or] at he
        simpa [readFraction?, hdot, he.1, he.2] using whole (c :: p)

/-- The rest after a fraction is the end of the text. -/
theorem suffix_readFraction? {negative : Bool} {m extra : Nat} {s rest : List Char}
    {n : JsonNumber} (h : readFraction? negative m extra s = some (n, rest)) : rest <:+ s := by
  unfold readFraction? at h
  split at h
  · next fraction =>
    split at h
    · simp at h
    · exact (((suffix_finish? h).trans (List.dropWhile_suffix _)).trans
        (suffix_takeDigits fraction m 0)).trans (List.suffix_cons _ _)
  · exact suffix_finish? h
  · exact suffix_finish? h
  · split at h
    · cases hn : ofInteger? negative m with
      | none => simp [hn] at h
      | some n =>
        simp only [hn] at h
        cases h
        exact List.suffix_rfl
    · exact suffix_finish? h

/-- A number without its sign is read from the text before the stop. -/
theorem readUnsigned?_append (negative : Bool) (p : List Char) {r : List Char} (hr : Stops r) :
    readUnsigned? negative (p ++ r) =
      (readUnsigned? negative p).map fun x => (x.1, x.2 ++ r) := by
  rcases p with _ | ⟨c, p⟩
  · rcases hr.cases with rfl | ⟨c, more, rfl, hc, -⟩
    · rfl
    · simp [readUnsigned?, hc]
  · have htaken : (if c = '0' then (0, 1, p ++ r) else takeDigits 0 0 (c :: (p ++ r))) =
        let taken := if c = '0' then (0, 1, p) else takeDigits 0 0 (c :: p)
        (taken.1, taken.2.1, taken.2.2 ++ r) := by
      split
      · rfl
      · exact takeDigits_append (c :: p) hr 0 0
    simp only [readUnsigned?, List.cons_append, htaken, takeWhile_isDigit_append _ hr,
      dropWhile_isDigit_append _ hr, readFraction?_append _ _ _ _ hr]
    generalize (if c = '0' then (0, 1, p) else takeDigits 0 0 (c :: p)) = taken
    split
    · rfl
    · split <;> rfl

/-- The rest after a number without its sign is the end of the text. -/
theorem suffix_readUnsigned? {negative : Bool} {s rest : List Char} {n : JsonNumber}
    (h : readUnsigned? negative s = some (n, rest)) : rest <:+ s := by
  rcases s with _ | ⟨c, s⟩
  · simp [readUnsigned?] at h
  · have htaken : (if c = '0' then (0, 1, s) else takeDigits 0 0 (c :: s)).2.2 <:+ c :: s := by
      split
      · exact List.suffix_cons c s
      · exact suffix_takeDigits (c :: s) 0 0
    simp only [readUnsigned?] at h
    generalize (if c = '0' then (0, 1, s) else takeDigits 0 0 (c :: s)) = taken at h htaken
    split at h
    · simp at h
    · split at h
      · simp at h
      · exact ((suffix_readFraction? h).trans (List.dropWhile_suffix _)).trans htaken

/-- A number is read from the text before the stop. -/
theorem read?_append (p : List Char) {r : List Char} (hr : Stops r) :
    read? (p ++ r) = (read? p).map fun x => (x.1, x.2 ++ r) := by
  rcases p with _ | ⟨c, p⟩
  · rcases hr.cases with rfl | ⟨c, more, rfl, -, -, hminus, -⟩
    · rfl
    · simpa [read?, hminus] using readUnsigned?_append false [] hr
  · by_cases hminus : c = '-'
    · subst hminus
      exact readUnsigned?_append true p hr
    · simpa [read?, hminus] using readUnsigned?_append false (c :: p) hr

/-- The rest after a number is the end of the text. -/
theorem suffix_read? {s rest : List Char} {n : JsonNumber} (h : read? s = some (n, rest)) :
    rest <:+ s := by
  unfold read? at h
  split at h
  · exact (suffix_readUnsigned? h).trans (List.suffix_cons _ _)
  · exact suffix_readUnsigned? h

/-- **The extent of a number.** A number that stops is read from the characters before the stop,
whatever stops it. -/
theorem extent_read? {s rest : List Char} {n : JsonNumber} (h : read? s = some (n, rest))
    (hrest : Stops rest) :
    ∃ t, s = t ++ rest ∧ ∀ rest', Stops rest' → read? (t ++ rest') = some (n, rest') := by
  obtain ⟨t, rfl⟩ := suffix_read? h
  refine ⟨t, rfl, fun rest' hrest' => ?_⟩
  rw [read?_append t hrest, Option.map_eq_some_iff] at h
  obtain ⟨⟨n', last⟩, ht, heq⟩ := h
  rw [Prod.mk.injEq] at heq
  obtain ⟨rfl, hlast⟩ := heq
  have hnil : last = [] := List.append_left_eq_self.1 hlast
  rw [read?_append t hrest', ht, hnil]
  rfl

end ModelProbe.JsonNumber
