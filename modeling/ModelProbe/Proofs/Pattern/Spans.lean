import ModelProbe.Pattern.Search
/-!
# What a pattern is found in

A tree describes spans of a text, each from one place to another that is not before it. The search
takes sets of places to sets of places and goes a bounded number of rounds where the tree repeats
something. It finds the same, since of more rounds than a text has places some must stay in place.

* `Spans`: the spans that a tree describes.
* `Rounds.shift`: of many rounds one may be left out or made twice.
* `Searching`: what holds in the midst of a search.
* `follows_ends`: the search takes each place to the ends of the spans that begin there.
* `Tree.Counted.fits_iff`: a tree fits somewhere in a text when it describes a span of it.
-/

namespace ModelProbe.Pattern

/-! ## Spans -/

/-- The character before a place. -/
def before (text : List Char) (i : Nat) : Option Char :=
  if i = 0 then none else text[i - 1]?

/-- So many steps of the relation lead from one place to another. -/
def Rounds (r : Nat → Nat → Prop) : Nat → Nat → Nat → Prop
  | 0, i, j => i = j
  | k + 1, i, j => ∃ x, r i x ∧ Rounds r k x j

/-- The tree describes the span of the text between two places. -/
def Spans (text : List Char) : Tree → Nat → Nat → Prop
  | .empty, i, j => i = j
  | .chars set, i, j => j = i + 1 ∧ ∃ c, text[i]? = some c ∧ set.contains c = true
  | .boundary b, i, j => i = j ∧ b.holds (before text i) text[i]? = true
  | .seq a b, i, j => ∃ x, Spans text a i x ∧ Spans text b x j
  | .alt a b, i, j => Spans text a i j ∨ Spans text b i j
  | .times a least most, i, j =>
    ∃ k, least ≤ k ∧ (∀ m, most = some m → k ≤ m) ∧ Rounds (Spans text a) k i j

/-- No repetition in the tree asks for more rounds than it allows. -/
def Tree.Counted : Tree → Prop
  | .seq a b | .alt a b => a.Counted ∧ b.Counted
  | .times a least most => a.Counted ∧ ∀ m, most = some m → least ≤ m
  | _ => True

/-! ## Rounds -/

/-- From a place of a text of `n` characters the relation leads to no place before it and to none
beyond the text. -/
def Forward (n : Nat) (r : Nat → Nat → Prop) : Prop :=
  ∀ i j, i ≤ n → r i j → i ≤ j ∧ j ≤ n

section Rounds

variable {n : Nat} {r : Nat → Nat → Prop}

theorem rounds_add (k l i j : Nat) :
    Rounds r (k + l) i j ↔ ∃ x, Rounds r k i x ∧ Rounds r l x j := by
  induction k generalizing i with
  | zero =>
    rw [Nat.zero_add]
    constructor
    · exact fun h => ⟨i, rfl, h⟩
    · rintro ⟨x, rfl, h⟩
      exact h
  | succ k ih =>
    rw [Nat.add_right_comm]
    constructor
    · rintro ⟨y, hy, h⟩
      obtain ⟨x, hx, hrest⟩ := (ih y).1 h
      exact ⟨x, ⟨y, hy, hx⟩, hrest⟩
    · rintro ⟨x, ⟨y, hy, hx⟩, hrest⟩
      exact ⟨y, hy, (ih y).2 ⟨x, hx, hrest⟩⟩

theorem Forward.rounds (hr : Forward n r) (k : Nat) : Forward n (Rounds r k) := by
  induction k with
  | zero =>
    rintro i j hi rfl
    exact ⟨Nat.le_refl i, hi⟩
  | succ k ih =>
    rintro i j hi ⟨x, hx, h⟩
    obtain ⟨hix, hxn⟩ := hr i x hi hx
    obtain ⟨hxj, hjn⟩ := ih x j hxn h
    exact ⟨Nat.le_trans hix hxj, hjn⟩

/-- **Of more rounds than there are places to go up** one stays in place, so it may be left out or
made twice. -/
theorem Rounds.shift (hr : Forward n r) {k i j : Nat} (hi : i ≤ n) (h : Rounds r (k + 1) i j)
    (hk : j ≤ i + k) : Rounds r k i j ∧ Rounds r (k + 2) i j := by
  induction k generalizing i with
  | zero =>
    obtain ⟨x, hx, rfl⟩ := h
    have hix := (hr i x hi hx).1
    obtain rfl : i = x := by omega
    exact ⟨rfl, i, hx, i, hx, rfl⟩
  | succ k ih =>
    obtain ⟨x, hx, hrest⟩ := h
    obtain ⟨hix, hxn⟩ := hr i x hi hx
    by_cases hstays : i = x
    · subst hstays
      exact ⟨hrest, i, hx, i, hx, hrest⟩
    · obtain ⟨hless, hmore⟩ := ih hxn hrest (by omega)
      exact ⟨⟨x, hx, hless⟩, x, hx, hmore⟩

/-- Any two numbers of rounds that are greater than the number of characters lead to the same
places. -/
theorem rounds_congr (hr : Forward n r) {k l i j : Nat} (hi : i ≤ n) (hk : n < k) (hl : n < l) :
    Rounds r k i j ↔ Rounds r l i j := by
  have hleast : ∀ d, Rounds r (n + 1 + d) i j ↔ Rounds r (n + 1) i j := by
    intro d
    induction d with
    | zero => exact Iff.rfl
    | succ d ih =>
      rw [← ih, show n + 1 + (d + 1) = n + d + 2 by omega, show n + 1 + d = n + d + 1 by omega]
      constructor
      · intro h
        have hj := (hr.rounds _ i j hi h).2
        exact (Rounds.shift hr hi h (by omega)).1
      · intro h
        have hj := (hr.rounds _ i j hi h).2
        exact (Rounds.shift hr hi h (by omega)).2
  obtain ⟨d, rfl⟩ := Nat.exists_eq_add_of_lt hk
  obtain ⟨e, rfl⟩ := Nat.exists_eq_add_of_lt hl
  rw [show n + d + 1 = n + 1 + d by omega, show n + e + 1 = n + 1 + e by omega, hleast, hleast]

/-- What many rounds lead to, no more rounds lead to than there are characters. -/
theorem Rounds.exists_le (hr : Forward n r) {k i j : Nat} (hi : i ≤ n) (h : Rounds r k i j) :
    ∃ l ≤ n, l ≤ k ∧ Rounds r l i j := by
  induction k with
  | zero => exact ⟨0, Nat.zero_le n, Nat.le_refl 0, h⟩
  | succ k ih =>
    by_cases hk : k + 1 ≤ n
    · exact ⟨k + 1, hk, Nat.le_refl _, h⟩
    · have hj := (hr.rounds _ i j hi h).2
      obtain ⟨l, hln, hlk, hl⟩ := ih (Rounds.shift hr hi h (by omega)).1
      exact ⟨l, hln, by omega, hl⟩

end Rounds

/-- A tree describes no span that ends before it begins or beyond the text. -/
theorem forward_spans (text : List Char) (tree : Tree) :
    Forward text.length (Spans text tree) := by
  induction tree with
  | empty =>
    rintro i j hi rfl
    exact ⟨Nat.le_refl i, hi⟩
  | chars set =>
    rintro i j hi ⟨rfl, c, hc, -⟩
    exact ⟨Nat.le_succ i, (List.getElem?_eq_some_iff.1 hc).1⟩
  | boundary b =>
    rintro i j hi ⟨rfl, -⟩
    exact ⟨Nat.le_refl i, hi⟩
  | seq a b iha ihb =>
    rintro i j hi ⟨x, ha, hb⟩
    obtain ⟨hix, hx⟩ := iha i x hi ha
    obtain ⟨hxj, hj⟩ := ihb x j hx hb
    exact ⟨Nat.le_trans hix hxj, hj⟩
  | alt a b iha ihb =>
    rintro i j hi (ha | hb)
    · exact iha i j hi ha
    · exact ihb i j hi hb
  | times a least most ih =>
    rintro i j hi ⟨k, -, -, h⟩
    exact ih.rounds k i j hi h

/-! ## Sets of places -/

theorem testBit_ofFlags (flags : List Bool) (i : Nat) :
    (Places.ofFlags flags).testBit i = true ↔ flags[i]? = some true := by
  induction flags generalizing i with
  | nil => simp [Places.ofFlags]
  | cons b flags ih =>
    rw [Places.ofFlags]
    cases i with
    | zero => cases b <;> simp [Nat.testBit_zero, Nat.add_mod]
    | succ i =>
      have hhalf : ∀ rest : Nat, (2 * rest + b.toNat) / 2 = rest := by
        intro rest
        have hb := Bool.toNat_lt b
        omega
      rw [Nat.testBit_succ, hhalf, ih, List.getElem?_cons_succ]

theorem getElem?_placesBetween (holds : Option Char → Option Char → Bool) (first : Option Char)
    (text : List Char) (i : Nat) :
    (placesBetween holds first text)[i]? =
      if i ≤ text.length then some (holds (if i = 0 then first else text[i - 1]?) text[i]?)
      else none := by
  induction text generalizing first i with
  | nil => cases i <;> simp [placesBetween]
  | cons c text ih =>
    cases i with
    | zero => simp [placesBetween]
    | succ i =>
      rw [placesBetween, List.getElem?_cons_succ, ih]
      cases i <;> simp

/-- All places of the set are places of a text of `n` characters. -/
def Within (n : Nat) (s : Places) : Prop := ∀ i, s.testBit i = true → i ≤ n

/-- The step takes a set to the places where the relation leads from it. -/
def Follows (n : Nat) (r : Nat → Nat → Prop) (step : Places → Places) : Prop :=
  ∀ s, Within n s → ∀ j, (step s).testBit j = true ↔ ∃ i, s.testBit i = true ∧ r i j

section Follows

variable {n : Nat} {r q : Nat → Nat → Prop} {step next : Places → Places}

theorem Follows.within (h : Follows n r step) (hr : Forward n r) {s : Places} (hs : Within n s) :
    Within n (step s) := by
  intro j hj
  obtain ⟨i, hi, hij⟩ := (h s hs j).1 hj
  exact (hr i j (hs i hi) hij).2

/-- A relation may be exchanged for one that leads from places of the text to the same places. -/
theorem Follows.congr (h : Follows n r step) (heq : ∀ i j, i ≤ n → (r i j ↔ q i j)) :
    Follows n q step := by
  intro s hs j
  rw [h s hs j]
  exact exists_congr fun i => and_congr_right fun hi => heq i j (hs i hi)

/-- Two steps follow one relation after the other. -/
theorem Follows.comp (h : Follows n r step) (hr : Forward n r) (h' : Follows n q next) :
    Follows n (fun i j => ∃ x, r i x ∧ q x j) fun s => next (step s) := by
  intro s hs j
  rw [h' _ (h.within hr hs) j]
  constructor
  · rintro ⟨x, hx, hxj⟩
    obtain ⟨i, hi, hix⟩ := (h s hs x).1 hx
    exact ⟨i, hi, x, hix, hxj⟩
  · rintro ⟨i, hi, x, hix, hxj⟩
    exact ⟨x, (h s hs x).2 ⟨i, hi, hix⟩, hxj⟩

theorem Follows.iterated (h : Follows n r step) (hr : Forward n r) (k : Nat) :
    Follows n (Rounds r k) (iterate step k) := by
  induction k with
  | zero =>
    intro s _ j
    constructor
    · exact fun hj => ⟨j, hj, rfl⟩
    · rintro ⟨i, hi, rfl⟩
      exact hi
  | succ k ih => exact h.comp hr ih

/-- The places that are new after a step. -/
theorem testBit_fresh (next seen : Places) (i : Nat) :
    ((next ||| seen) ^^^ seen).testBit i = (next.testBit i && !seen.testBit i) := by
  rw [Nat.testBit_xor, Nat.testBit_or]
  cases next.testBit i <;> cases seen.testBit i <;> rfl

/-- The places that were seen before a step and those that are new after it. -/
theorem testBit_widened (next seen : Places) (i : Nat) :
    (seen ||| ((next ||| seen) ^^^ seen)).testBit i = true ↔
      seen.testBit i = true ∨ next.testBit i = true := by
  rw [Nat.testBit_or, testBit_fresh]
  cases seen.testBit i <;> cases next.testBit i <;> simp

/-- What holds in the midst of a search: a place that was seen and is not at the frontier leads only
to places that were seen. -/
structure Searching (n : Nat) (r : Nat → Nat → Prop) (seen frontier : Places) : Prop where
  within : Within n seen
  known : ∀ i, frontier.testBit i = true → seen.testBit i = true
  inner : ∀ i j, seen.testBit i = true → frontier.testBit i = false → r i j →
    seen.testBit j = true

namespace Searching

variable {seen frontier : Places}

/-- A search begins with its frontier. -/
theorem start {s : Places} (hs : Within n s) : Searching n r s s where
  within := hs
  known := fun _ hi => hi
  inner := fun i _ hi hno _ => absurd (hi.symm.trans hno) (by decide)

theorem step_iff (hsearch : Searching n r seen frontier) (h : Follows n r step) (j : Nat) :
    (step frontier).testBit j = true ↔ ∃ i, frontier.testBit i = true ∧ r i j :=
  h frontier (fun i hi => hsearch.within i (hsearch.known i hi)) j

/-- From a place that was seen the relation leads to one that was seen or is reached next. -/
theorem leads (hsearch : Searching n r seen frontier) (h : Follows n r step) {i j : Nat}
    (hi : seen.testBit i = true) (hij : r i j) :
    seen.testBit j = true ∨ (step frontier).testBit j = true := by
  cases hf : frontier.testBit i with
  | false => exact .inl (hsearch.inner i j hi hf hij)
  | true => exact .inr ((hsearch.step_iff h j).2 ⟨i, hf, hij⟩)

/-- A search that meets nothing new has seen all places that there are. -/
theorem closed (hsearch : Searching n r seen frontier) (h : Follows n r step)
    (hnone : (step frontier ||| seen) ^^^ seen = 0) {k i j : Nat} (hi : seen.testBit i = true)
    (hij : Rounds r k i j) : seen.testBit j = true := by
  induction k generalizing i with
  | zero =>
    obtain rfl : i = j := hij
    exact hi
  | succ k ih =>
    obtain ⟨x, hix, hxj⟩ := hij
    refine ih ?_ hxj
    rcases hsearch.leads h hi hix with hold | hnew
    · exact hold
    · have hfresh := testBit_fresh (step frontier) seen x
      rw [hnone, hnew, Nat.zero_testBit, Bool.true_and] at hfresh
      simpa using hfresh

/-- The search goes on from the places that are new. -/
theorem advance (hsearch : Searching n r seen frontier) (h : Follows n r step) (hr : Forward n r) :
    Searching n r (seen ||| ((step frontier ||| seen) ^^^ seen))
      ((step frontier ||| seen) ^^^ seen) where
  within := by
    intro i hi
    rcases (testBit_widened _ _ i).1 hi with hold | hnew
    · exact hsearch.within i hold
    · exact h.within hr (fun x hx => hsearch.within x (hsearch.known x hx)) i hnew
  known := by
    intro i hi
    rw [testBit_fresh, Bool.and_eq_true] at hi
    exact (testBit_widened _ _ i).2 (.inr hi.1)
  inner := by
    intro i j hi hno hij
    have hseen : seen.testBit i = true := by
      rcases (testBit_widened _ _ i).1 hi with hold | hnew
      · exact hold
      · rw [testBit_fresh, hnew, Bool.true_and] at hno
        simpa using hno
    exact (testBit_widened _ _ j).2 (hsearch.leads h hseen hij)

/-- What a search reaches in so many rounds. -/
theorem testBit_reach (hsearch : Searching n r seen frontier) (h : Follows n r step)
    (hr : Forward n r) (rounds j : Nat) :
    (reach step rounds seen frontier).testBit j = true ↔
      ∃ k ≤ rounds, ∃ i, seen.testBit i = true ∧ Rounds r k i j := by
  induction rounds generalizing seen frontier with
  | zero =>
    constructor
    · exact fun hj => ⟨0, Nat.le_refl 0, j, hj, rfl⟩
    · rintro ⟨k, hk, i, hi, hij⟩
      obtain rfl := Nat.le_zero.1 hk
      obtain rfl : i = j := hij
      exact hi
  | succ rounds ih =>
    rw [reach]
    split
    · next hnone =>
      constructor
      · exact fun hj => ⟨0, Nat.zero_le _, j, hj, rfl⟩
      · rintro ⟨k, -, i, hi, hij⟩
        exact hsearch.closed h hnone hi hij
    · rw [ih (hsearch.advance h hr)]
      constructor
      · rintro ⟨k, hk, i, hi, hij⟩
        rcases (testBit_widened _ _ i).1 hi with hold | hnew
        · exact ⟨k, Nat.le_succ_of_le hk, i, hold, hij⟩
        · obtain ⟨x, hx, hxi⟩ := (hsearch.step_iff h i).1 hnew
          exact ⟨k + 1, Nat.succ_le_succ hk, x, hsearch.known x hx, i, hxi, hij⟩
      · rintro ⟨k, hk, i, hi, hij⟩
        cases k with
        | zero => exact ⟨0, Nat.zero_le _, i, (testBit_widened _ _ i).2 (.inl hi), hij⟩
        | succ k =>
          obtain ⟨x, hix, hxj⟩ := hij
          have hx := (testBit_widened _ _ x).2 (hsearch.leads h hi hix)
          exact ⟨k, Nat.le_of_succ_le_succ hk, x, hx, hxj⟩

end Searching

/-- At most so many rounds from a set lead where the search reaches. -/
theorem Follows.reached (h : Follows n r step) (hr : Forward n r) (rounds : Nat) :
    Follows n (fun i j => ∃ k ≤ rounds, Rounds r k i j) fun s => reach step rounds s s := by
  intro s hs j
  rw [(Searching.start hs).testBit_reach h hr]
  constructor
  · rintro ⟨k, hk, i, hi, hij⟩
    exact ⟨i, hi, k, hk, hij⟩
  · rintro ⟨i, hi, k, hk, hij⟩
    exact ⟨k, hk, i, hi, hij⟩

end Follows

/-! ## The search -/

/-- A repetition whose first rounds and further rounds are cut off above the number of characters
follows the one in which only `bound` limits the further rounds. -/
theorem Follows.repeated {n : Nat} {r : Nat → Nat → Prop} {step : Places → Places}
    (h : Follows n r step) (hr : Forward n r) (least rounds : Nat) (bound : Nat → Prop)
    (hall : ∀ k ≤ rounds, bound k) (hsmall : ∀ k ≤ n, bound k → k ≤ rounds)
    (hdown : ∀ k l, bound k → l ≤ k → bound l) :
    Follows n (fun i j => ∃ k, bound k ∧ Rounds r (least + k) i j) fun s =>
      reach step rounds (iterate step (min least (n + 2)) s)
        (iterate step (min least (n + 2)) s) := by
  refine ((h.iterated hr _).comp (hr.rounds _) (h.reached hr rounds)).congr fun i j hi => ?_
  have hfirst : ∀ x, Rounds r (min least (n + 2)) i x ↔ Rounds r least i x := by
    intro x
    by_cases hle : least ≤ n + 2
    · rw [Nat.min_eq_left hle]
    · rw [Nat.min_eq_right (by omega)]
      exact rounds_congr hr hi (by omega) (by omega)
  constructor
  · rintro ⟨x, hx, k, hk, hxj⟩
    exact ⟨k, hall k hk, (rounds_add least k i j).2 ⟨x, (hfirst x).1 hx, hxj⟩⟩
  · rintro ⟨k, hk, hij⟩
    obtain ⟨x, hx, hxj⟩ := (rounds_add least k i j).1 hij
    have hxn := (hr.rounds least i x hi hx).2
    obtain ⟨l, hln, hlk, hl⟩ := Rounds.exists_le hr hxn hxj
    exact ⟨x, (hfirst x).2 hx, l, hsmall l hln (hdown k l hk hlk), hl⟩

/-- **The search takes each place to the ends of the spans that begin there.** -/
theorem follows_ends (text : List Char) {tree : Tree} (h : tree.Counted) :
    Follows text.length (Spans text tree) (tree.ends text) := by
  induction tree with
  | empty =>
    intro s _ j
    constructor
    · exact fun hj => ⟨j, hj, rfl⟩
    · rintro ⟨i, hi, rfl⟩
      exact hi
  | chars set =>
    intro s _ j
    show ((s &&& Places.ofFlags (text.map set.contains)) <<< 1).testBit j = true ↔ _
    rw [Nat.testBit_shiftLeft, Bool.and_eq_true, decide_eq_true_eq, Nat.testBit_and,
      Bool.and_eq_true, testBit_ofFlags, List.getElem?_map, Option.map_eq_some_iff]
    constructor
    · rintro ⟨hj, hs, c, hc, hset⟩
      exact ⟨j - 1, hs, by omega, c, hc, hset⟩
    · rintro ⟨i, hi, rfl, c, hc, hset⟩
      rw [Nat.add_sub_cancel]
      exact ⟨Nat.le_add_left 1 i, hi, c, hc, hset⟩
  | boundary b =>
    intro s hs j
    show (s &&& Places.ofFlags (placesBetween b.holds none text)).testBit j = true ↔ _
    rw [Nat.testBit_and, Bool.and_eq_true, testBit_ofFlags, getElem?_placesBetween]
    constructor
    · rintro ⟨hj, hholds⟩
      rw [if_pos (hs j hj)] at hholds
      exact ⟨j, hj, rfl, Option.some.inj hholds⟩
    · rintro ⟨i, hi, rfl, hholds⟩
      rw [if_pos (hs i hi)]
      exact ⟨hi, congrArg some hholds⟩
  | seq a b iha ihb => exact (iha h.1).comp (forward_spans text a) (ihb h.2)
  | alt a b iha ihb =>
    intro s hs j
    show (a.ends text s ||| b.ends text s).testBit j = true ↔ _
    rw [Nat.testBit_or, Bool.or_eq_true, iha h.1 s hs j, ihb h.2 s hs j, ← exists_or]
    exact exists_congr fun i => and_or_left.symm
  | times a least most ih =>
    obtain ⟨ha, hmost⟩ := h
    cases most with
    | none =>
      have hfollows := (ih ha).repeated (forward_spans text a) least (text.length + 2)
        (fun _ => True) (fun _ _ => trivial) (fun k hk _ => by omega) fun _ _ _ _ => trivial
      refine hfollows.congr fun i j _ => ?_
      constructor
      · rintro ⟨k, -, hij⟩
        exact ⟨least + k, Nat.le_add_right _ _, by rintro m ⟨⟩, hij⟩
      · rintro ⟨k, hk, -, hij⟩
        obtain ⟨d, rfl⟩ := Nat.exists_eq_add_of_le hk
        exact ⟨d, trivial, hij⟩
    | some m =>
      have hle := hmost m rfl
      have hfollows := (ih ha).repeated (forward_spans text a) least
        (min (m - least) (text.length + 2)) (· ≤ m - least) (fun k hk => by omega)
        (fun k hk hbound => by omega) fun k l hk hl => by omega
      refine hfollows.congr fun i j _ => ?_
      constructor
      · rintro ⟨k, hk, hij⟩
        refine ⟨least + k, Nat.le_add_right _ _, ?_, hij⟩
        rintro _ ⟨⟩
        omega
      · rintro ⟨k, hk, hbound, hij⟩
        have hkm := hbound m rfl
        obtain ⟨d, rfl⟩ := Nat.exists_eq_add_of_le hk
        exact ⟨d, by omega, hij⟩

/-- **A tree fits somewhere in a text exactly when it describes a span of it.** -/
theorem Tree.Counted.fits_iff {tree : Tree} (h : tree.Counted) (text : List Char) :
    tree.fits text = true ↔ ∃ i ≤ text.length, ∃ j, Spans text tree i j := by
  have hplaces : ∀ i, (Nat.pow 2 (text.length + 1) - 1).testBit i = true ↔ i ≤ text.length := by
    intro i
    rw [show Nat.pow 2 (text.length + 1) = 2 ^ (text.length + 1) from rfl,
      Nat.testBit_two_pow_sub_one, decide_eq_true_eq, Nat.lt_succ_iff]
  have hends := follows_ends text h _ fun i hi => (hplaces i).1 hi
  rw [Tree.fits, bne_iff_ne]
  constructor
  · intro hne
    obtain ⟨j, hj⟩ := Nat.exists_testBit_of_ne_zero hne
    obtain ⟨i, hi, hij⟩ := (hends j).1 hj
    exact ⟨i, (hplaces i).1 hi, j, hij⟩
  · rintro ⟨i, hi, j, hij⟩ hzero
    have hj := (hends j).2 ⟨i, (hplaces i).2 hi, hij⟩
    rw [hzero, Nat.zero_testBit] at hj
    cases hj

end ModelProbe.Pattern
