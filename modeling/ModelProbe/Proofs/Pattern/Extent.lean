import Mathlib
import ModelProbe.Pattern.Reader
/-!
# What the readers of patterns take

A reader takes a piece of the text and leaves the rest. Most pieces say themselves where they end,
so that the rest may be exchanged for another one and the same piece is read.

* `skipBlanks_append_of_eq`: blanks and comments before a text are skipped before another one too.
* `HasExtent`: what is read rests on the characters that are taken.
* `hasExtent_readTimes?`, `hasExtent_readGroupName?`: so it is for repetitions and names.
* `extent_readEscape?`: and for escapes, but for a word boundary, which must not go on as one that
  is named in braces.
-/

namespace ModelProbe.Pattern

open Text

/-! ## Blanks and comments -/

/-- The character is no blank, and begins no comment, in a mode where these do not count. -/
def Kept (spaced : Bool) (c : Char) : Prop :=
  spaced = true → isBlank c = false ∧ c ≠ '#'

theorem skipBlanks_cons {spaced : Bool} {c : Char} (hc : Kept spaced c) (s : List Char) :
    skipBlanks spaced (c :: s) = c :: s := by
  rw [skipBlanks]
  cases spaced with
  | false => rfl
  | true =>
    obtain ⟨hblank, hhash⟩ := hc rfl
    simp [hblank, hhash]

theorem afterLine_suffix (s : List Char) : afterLine s <:+ s :=
  (List.drop_suffix 1 _).trans (List.dropWhile_suffix _)

/-- What is left without blanks ends the text. -/
theorem skipBlanks_suffix (spaced : Bool) (s : List Char) : skipBlanks spaced s <:+ s := by
  induction s using skipBlanks.induct spaced with
  | case1 => simp [skipBlanks]
  | case2 c cs hspaced => simp [skipBlanks, hspaced]
  | case3 c cs hspaced hblank ih =>
    rw [skipBlanks, if_neg hspaced, if_pos hblank]
    exact ih.trans (List.suffix_cons c cs)
  | case4 cs hspaced hblank ih =>
    rw [skipBlanks, if_neg hspaced, if_neg hblank, if_pos rfl]
    exact ih.trans ((afterLine_suffix cs).trans (List.suffix_cons _ cs))
  | case5 c cs hspaced hblank hhash =>
    rw [skipBlanks, if_neg hspaced, if_neg hblank, if_neg hhash]

/-- What is left without blanks does not begin with one. -/
theorem kept_of_skipBlanks {spaced : Bool} {s rest : List Char} {c : Char}
    (h : skipBlanks spaced s = c :: rest) : Kept spaced c := by
  induction s using skipBlanks.induct spaced with
  | case1 =>
    rw [skipBlanks] at h
    cases h
  | case2 d cs hspaced =>
    intro htrue
    rw [htrue] at hspaced
    cases hspaced
  | case3 d cs hspaced hblank ih =>
    rw [skipBlanks, if_neg hspaced, if_pos hblank] at h
    exact ih h
  | case4 cs hspaced hblank ih =>
    rw [skipBlanks, if_neg hspaced, if_neg hblank, if_pos rfl] at h
    exact ih h
  | case5 d cs hspaced hblank hhash =>
    rw [skipBlanks, if_neg hspaced, if_neg hblank, if_neg hhash] at h
    obtain ⟨rfl, -⟩ := List.cons.inj h
    exact fun _ => ⟨Bool.eq_false_iff.2 hblank, hhash⟩

/-- Skipping blanks once more changes nothing. -/
@[simp] theorem skipBlanks_skipBlanks (spaced : Bool) (s : List Char) :
    skipBlanks spaced (skipBlanks spaced s) = skipBlanks spaced s := by
  cases h : skipBlanks spaced s with
  | nil => rw [skipBlanks]
  | cons c rest => exact skipBlanks_cons (kept_of_skipBlanks h) rest

/-- The line ends in the first piece, or goes on in the second. -/
theorem afterLine_append (p s : List Char) :
    afterLine (p ++ s) = if '\n' ∈ p then afterLine p ++ s else afterLine s := by
  induction p with
  | nil => simp
  | cons c p ih =>
    by_cases hc : c = '\n'
    · subst hc
      simp [afterLine]
    · have hmem : '\n' ∈ c :: p ↔ '\n' ∈ p := by simp [Ne.symm hc]
      have hcons : ∀ t, afterLine (c :: t) = afterLine t := by simp [afterLine, hc]
      rw [List.cons_append, hcons, hcons, ih]
      simp only [hmem]

theorem length_afterLine_lt {s : List Char} (h : s ≠ []) : (afterLine s).length < s.length := by
  have hlength := (List.dropWhile_suffix (l := s) (· != '\n')).length_le
  have hpos := List.length_pos_iff.2 h
  simp only [afterLine, List.length_drop]
  omega

/-- Blanks and comments before a text are skipped before another one too. -/
theorem skipBlanks_append_of_eq {spaced : Bool} {p t t' : List Char}
    (h : skipBlanks spaced (p ++ t) = t) (ht : t ≠ []) (ht' : skipBlanks spaced t' = t') :
    skipBlanks spaced (p ++ t') = t' := by
  -- By the length of the blanks: a comment takes many of them at once.
  induction hn : p.length using Nat.strongRecOn generalizing p with
  | ind n ih =>
    subst hn
    cases p with
    | nil => exact ht'
    | cons c p =>
      have hlonger : c :: (p ++ t) ≠ t := fun heq => by
        have := congrArg List.length heq
        simp at this
        omega
      rw [List.cons_append, skipBlanks] at h ⊢
      split at h
      · exact absurd h hlonger
      · next hspaced =>
        rw [if_neg hspaced]
        split at h
        · next hblank =>
          rw [if_pos hblank]
          exact ih p.length (Nat.lt_succ_self _) h rfl
        · next hblank =>
          rw [if_neg hblank]
          split at h
          · next hhash =>
            rw [if_pos hhash]
            rw [afterLine_append] at h ⊢
            split at h
            · next hbreak =>
              rw [if_pos hbreak]
              exact ih _ (Nat.lt_succ_of_le (length_afterLine_le p)) h rfl
            · -- A comment that goes on in the text would take a part of it.
              have hle := (skipBlanks_suffix spaced (afterLine t)).length_le
              rw [h] at hle
              exact absurd (length_afterLine_lt ht) (Nat.not_lt.2 hle)
          · exact absurd h hlonger

/-- A text that has a character after its blanks begins with blanks and that character. -/
theorem exists_skipped {spaced : Bool} {s rest : List Char} {c : Char}
    (h : skipBlanks spaced s = c :: rest) :
    ∃ p, s = p ++ c :: rest ∧ ∀ rest', skipBlanks spaced (p ++ c :: rest') = c :: rest' := by
  obtain ⟨p, hp⟩ := skipBlanks_suffix spaced s
  rw [h] at hp
  refine ⟨p, hp.symm, fun rest' => ?_⟩
  refine skipBlanks_append_of_eq (t := c :: rest) (by rw [hp]; exact h) (List.cons_ne_nil c rest) ?_
  exact skipBlanks_cons (kept_of_skipBlanks h) rest'

theorem exists_skipped_append {spaced : Bool} {s t rest : List Char} {c : Char}
    (h : skipBlanks spaced s = t ++ c :: rest) :
    ∃ p, s = p ++ (t ++ c :: rest) ∧
      ∀ rest', skipBlanks spaced (p ++ (t ++ c :: rest')) = t ++ c :: rest' := by
  cases t with
  | nil => exact exists_skipped h
  | cons d t =>
    obtain ⟨p, hs, hp⟩ := exists_skipped h
    exact ⟨p, hs, fun rest' => hp (t ++ c :: rest')⟩

/-- A text that is more than blanks may go on. -/
theorem skipBlanks_append {spaced : Bool} {s : List Char} (h : skipBlanks spaced s ≠ [])
    (more : List Char) : skipBlanks spaced (s ++ more) = skipBlanks spaced s ++ more := by
  obtain ⟨c, rest, hs⟩ := List.exists_cons_of_ne_nil h
  obtain ⟨p, rfl, hp⟩ := exists_skipped hs
  rw [hs, List.append_assoc, List.cons_append, hp]

/-! ## Extents -/

/-- The reader takes `x` from the text and leaves the rest, and whatever follows the characters
that it takes may be exchanged. -/
def Takes {α : Type} (read : List Char → Option (α × List Char)) (s : List Char) (x : α)
    (rest : List Char) : Prop :=
  ∃ taken, s = taken ++ rest ∧ ∀ rest', read (taken ++ rest') = some (x, rest')

namespace Takes

variable {α β : Type} {read : List Char → Option (α × List Char)} {s rest : List Char} {c : Char}

theorem one {x : α} (hread : ∀ s, read (c :: s) = some (x, s)) : Takes read (c :: s) x s :=
  ⟨[c], rfl, hread⟩

/-- After its first character a reader may go on as another one. -/
theorem cons_map {f : β → α} {next : List Char → Option (β × List Char)} {y : β}
    (h : Takes next s y rest)
    (hread : ∀ s, read (c :: s) = (next s).map fun found => (f found.1, found.2)) :
    Takes read (c :: s) (f y) rest := by
  obtain ⟨taken, rfl, htaken⟩ := h
  refine ⟨c :: taken, rfl, fun rest' => ?_⟩
  rw [List.cons_append, hread, htaken, Option.map_some]

theorem cons {next : List Char → Option (α × List Char)} {x : α} (h : Takes next s x rest)
    (hread : ∀ s, read (c :: s) = next s) : Takes read (c :: s) x rest := by
  obtain ⟨taken, rfl, htaken⟩ := h
  exact ⟨c :: taken, rfl, fun rest' => (hread _).trans (htaken rest')⟩

end Takes

/-- What is read rests on the characters that are taken. -/
def HasExtent {α : Type} (read : List Char → Option (α × List Char)) : Prop :=
  ∀ ⦃s : List Char⦄ ⦃x : α⦄ ⦃rest : List Char⦄, read s = some (x, rest) → Takes read s x rest

namespace HasExtent

variable {α β : Type} {read : List Char → Option (α × List Char)}

/-- A reader that reads nothing from the empty text takes a character. -/
theorem exists_cons (h : HasExtent read) (hnil : read [] = none) {s rest : List Char} {x : α}
    (hread : read s = some (x, rest)) :
    ∃ c taken, s = c :: (taken ++ rest) ∧
      ∀ rest', read (c :: (taken ++ rest')) = some (x, rest') := by
  obtain ⟨taken, rfl, htaken⟩ := h hread
  cases taken with
  | nil =>
    have := htaken []
    rw [List.append_nil, hnil] at this
    cases this
  | cons c taken => exact ⟨c, taken, rfl, htaken⟩

/-- What is read may be refused or turned into something else. -/
theorem filterMap (h : HasExtent read) (f : α → Option β) :
    HasExtent fun s => (read s).bind fun found => (f found.1).map (·, found.2) := by
  intro s y rest hread
  obtain ⟨⟨x, r⟩, hx, hy⟩ := Option.bind_eq_some_iff.1 hread
  obtain ⟨z, hz, heq⟩ := Option.map_eq_some_iff.1 hy
  obtain ⟨rfl, rfl⟩ := Prod.mk.inj heq
  obtain ⟨taken, rfl, htaken⟩ := h hx
  refine ⟨taken, rfl, fun rest' => ?_⟩
  dsimp only
  rw [htaken, Option.bind_some, hz, Option.map_some]

theorem map (h : HasExtent read) (f : α → β) :
    HasExtent fun s => (read s).map fun found => (f found.1, found.2) := by
  intro s y rest hread
  obtain ⟨⟨x, r⟩, hx, heq⟩ := Option.map_eq_some_iff.1 hread
  obtain ⟨rfl, rfl⟩ := Prod.mk.inj heq
  obtain ⟨taken, rfl, htaken⟩ := h hx
  refine ⟨taken, rfl, fun rest' => ?_⟩
  dsimp only
  rw [htaken, Option.map_some]

/-- A piece may stand behind blanks. -/
theorem skip (h : HasExtent read) (hnil : read [] = none) (spaced : Bool) :
    HasExtent fun s => read (skipBlanks spaced s) := by
  intro s x rest hread
  obtain ⟨c, taken, hs, htaken⟩ := h.exists_cons hnil hread
  obtain ⟨p, rfl, hp⟩ := exists_skipped hs
  refine ⟨p ++ c :: taken, by simp, fun rest' => ?_⟩
  dsimp only
  rw [List.append_assoc, List.cons_append, hp]
  exact htaken rest'

end HasExtent

/-- The text up to a separator is taken with the separator. -/
theorem hasExtent_splitFirst? (sep : Char) : HasExtent (splitFirst? sep) := by
  intro s before rest h
  induction s generalizing before with
  | nil => cases h
  | cons c s ih =>
    rw [splitFirst?] at h
    split at h
    · next hc =>
      obtain ⟨rfl, rfl⟩ := Prod.mk.inj (Option.some.inj h)
      exact .one fun s => by rw [splitFirst?, if_pos hc]
    · next hc =>
      obtain ⟨⟨b, r⟩, hb, heq⟩ := Option.map_eq_some_iff.1 h
      obtain ⟨rfl, rfl⟩ := Prod.mk.inj heq
      exact (ih hb).cons_map fun s => by rw [splitFirst?, if_neg hc]

theorem hasExtent_readBraced? (spaced comment : Bool) : HasExtent (readBraced? spaced comment) := by
  intro s inside rest h
  induction s generalizing comment inside with
  | nil => cases h
  | cons c s ih =>
    rw [readBraced?] at h
    split at h
    · next hcomment => exact (ih _ h).cons fun s => by rw [readBraced?, if_pos hcomment]
    · next hcomment =>
      split at h
      · next hblank =>
        exact (ih _ h).cons fun s => by rw [readBraced?, if_neg hcomment, if_pos hblank]
      · next hblank =>
        split at h
        · next hhash =>
          exact (ih _ h).cons fun s => by
            rw [readBraced?, if_neg hcomment, if_neg hblank, if_pos hhash]
        · next hhash =>
          split at h
          · next hclose =>
            obtain ⟨rfl, rfl⟩ := Prod.mk.inj (Option.some.inj h)
            exact .one fun s => by
              rw [readBraced?, if_neg hcomment, if_neg hblank, if_neg hhash, if_pos hclose]
          · next hclose =>
            obtain ⟨⟨b, r⟩, hb, heq⟩ := Option.map_eq_some_iff.1 h
            obtain ⟨rfl, rfl⟩ := Prod.mk.inj heq
            exact (ih _ hb).cons_map fun s => by
              rw [readBraced?, if_neg hcomment, if_neg hblank, if_neg hhash, if_neg hclose]

/-- A comment in braces is passed over like any other. -/
theorem readBraced?_comment (spaced : Bool) (s : List Char) :
    readBraced? spaced true s = readBraced? spaced false (afterLine s) := by
  induction s with
  | nil => rfl
  | cons c s ih =>
    rw [readBraced?, if_pos rfl]
    by_cases hc : c = '\n'
    · subst hc
      rfl
    · have hafter : afterLine (c :: s) = afterLine s := by simp [afterLine, hc]
      rw [bne_iff_ne.2 hc, ih, hafter]

/-- Blanks at the head of braces do not count. -/
theorem readBraced?_skipBlanks (spaced : Bool) (s : List Char) :
    readBraced? spaced false (skipBlanks spaced s) = readBraced? spaced false s := by
  induction s using skipBlanks.induct spaced with
  | case1 => rw [skipBlanks]
  | case2 c cs hspaced => rw [skipBlanks, if_pos hspaced]
  | case3 c cs hspaced hblank ih =>
    have htrue : spaced = true := by simpa using hspaced
    rw [skipBlanks, if_neg hspaced, if_pos hblank, ih, readBraced?]
    simp [htrue, hblank]
  | case4 cs hspaced hblank ih =>
    have htrue : spaced = true := by simpa using hspaced
    rw [skipBlanks, if_neg hspaced, if_neg hblank, if_pos rfl, ih, readBraced?]
    simp [htrue, hblank, readBraced?_comment]
  | case5 c cs hspaced hblank hhash =>
    rw [skipBlanks, if_neg hspaced, if_neg hblank, if_neg hhash]

theorem hasExtent_readSome? (spaced : Bool) (count : Nat) :
    HasExtent (readSome? spaced count) := by
  induction count with
  | zero =>
    intro s x rest h
    obtain ⟨rfl, rfl⟩ := Prod.mk.inj (Option.some.inj h)
    exact ⟨[], rfl, fun _ => rfl⟩
  | succ count ih =>
    -- One character, then as many as before.
    let next (s : List Char) : Option (List Char × List Char) :=
      s.head?.bind fun c => (readSome? spaced count s.tail).map fun found => (c :: found.1, found.2)
    have hnext : HasExtent next := by
      intro s x rest h
      cases s with
      | nil => cases h
      | cons c cs => exact Takes.cons (ih.map (c :: ·) h) fun _ => rfl
    have hread : readSome? spaced (count + 1) = fun s => next (skipBlanks spaced s) := by
      funext s
      rw [readSome?]
      cases skipBlanks spaced s <;> rfl
    rw [hread]
    exact hnext.skip rfl spaced

/-- The reader together with the character after what it reads. -/
def withNext {α : Type} (read : List Char → Option (α × List Char)) (s : List Char) :
    Option ((α × Char) × List Char) :=
  match read s with
  | some (x, c :: rest) => some ((x, c), rest)
  | _ => none

theorem withNext_eq_some_iff {α : Type} {read : List Char → Option (α × List Char)}
    {s rest : List Char} {x : α} {c : Char} :
    withNext read s = some ((x, c), rest) ↔ read s = some (x, c :: rest) := by
  unfold withNext
  split
  · next y d r hread => simp [hread, and_assoc]
  · next hread =>
    simp only [reduceCtorEq, false_iff]
    exact hread x c rest

/-! ## Repetitions -/

theorem hasExtent_readDigits (spaced comment : Bool) :
    HasExtent (withNext fun s => some (readDigits spaced comment s)) := by
  rintro s ⟨digits, e⟩ rest h
  rw [withNext_eq_some_iff] at h
  suffices hsuffices : ∃ taken, s = taken ++ rest ∧
      ∀ rest', readDigits spaced comment (taken ++ rest') = (digits, e :: rest') by
    obtain ⟨taken, hs, htaken⟩ := hsuffices
    exact ⟨taken, hs, fun rest' => by rw [withNext_eq_some_iff, htaken]⟩
  replace h := Option.some.inj h
  induction s generalizing comment digits with
  | nil => cases h
  | cons c s ih =>
    rw [readDigits] at h
    split at h
    · next hcomment =>
      obtain ⟨taken, rfl, htaken⟩ := ih _ _ h
      refine ⟨c :: taken, rfl, fun rest' => ?_⟩
      rw [List.cons_append, readDigits, if_pos hcomment, htaken]
    · next hcomment =>
      split at h
      · next hblank =>
        obtain ⟨taken, rfl, htaken⟩ := ih _ _ h
        refine ⟨c :: taken, rfl, fun rest' => ?_⟩
        rw [List.cons_append, readDigits, if_neg hcomment, if_pos hblank, htaken]
      · next hblank =>
        split at h
        · next hhash =>
          obtain ⟨taken, rfl, htaken⟩ := ih _ _ h
          refine ⟨c :: taken, rfl, fun rest' => ?_⟩
          rw [List.cons_append, readDigits, if_neg hcomment, if_neg hblank, if_pos hhash, htaken]
        · next hhash =>
          split at h
          · next hdigit =>
            obtain ⟨rfl, hrest⟩ := Prod.mk.inj h
            obtain ⟨taken, rfl, htaken⟩ := ih _ _ (Prod.ext rfl hrest)
            refine ⟨c :: taken, rfl, fun rest' => ?_⟩
            rw [List.cons_append, readDigits, if_neg hcomment, if_neg hblank, if_neg hhash,
              if_pos hdigit, htaken]
          · next hdigit =>
            obtain ⟨rfl, hcons⟩ := Prod.mk.inj h
            obtain ⟨rfl, rfl⟩ := List.cons.inj hcons
            refine ⟨[c], rfl, fun rest' => ?_⟩
            rw [List.singleton_append, readDigits, if_neg hcomment, if_neg hblank, if_neg hhash,
              if_neg hdigit]

/-- A text that has a character after what is dropped begins with that and the character. -/
theorem exists_dropped {p : Char → Bool} {s rest : List Char} {c : Char}
    (h : s.dropWhile p = c :: rest) :
    ∃ w, s = w ++ c :: rest ∧ ∀ rest', (w ++ c :: rest').dropWhile p = c :: rest' := by
  have hhead := List.head?_dropWhile_not p s
  rw [h] at hhead
  refine ⟨s.takeWhile p, by rw [← h, List.takeWhile_append_dropWhile], fun rest' => ?_⟩
  rw [List.dropWhile_append_of_pos fun d hd => List.all_eq_true.1 List.all_takeWhile d hd,
    List.dropWhile_cons_of_neg]
  simpa using hhead

/-- What is read behind dropped characters is read behind others as well. -/
theorem HasExtent.drop {α : Type} {read : List Char → Option (α × List Char)}
    (h : HasExtent read) (hnil : read [] = none) (p : Char → Bool) :
    HasExtent fun s => read (s.dropWhile p) := by
  intro s x rest hread
  obtain ⟨c, taken, hs, htaken⟩ := h.exists_cons hnil hread
  obtain ⟨w, rfl, hw⟩ := exists_dropped hs
  refine ⟨w ++ c :: taken, by simp, fun rest' => ?_⟩
  dsimp only
  rw [List.append_assoc, List.cons_append, hw]
  exact htaken rest'

theorem hasExtent_readCount? (spaced : Bool) : HasExtent (withNext (readCount? spaced)) := by
  rintro s ⟨n, e⟩ rest h
  rw [withNext_eq_some_iff, readCount?] at h
  dsimp only at h
  split at h
  · cases h
  · next hnumber =>
    obtain ⟨rfl, hrest⟩ := Prod.mk.inj (Option.some.inj h)
    -- The number ends before a character that is left, be it a blank.
    cases hread : readDigits spaced false (s.dropWhile isBlank) with
    | mk digits after =>
    rw [hread] at hnumber hrest
    obtain ⟨w, rfl, hw⟩ := exists_dropped hrest
    obtain ⟨taken, hs, htaken⟩ : ∃ taken, s = taken ++ rest ∧ ∀ rest',
        readDigits spaced false ((taken ++ rest').dropWhile isBlank) =
          (digits, w ++ e :: rest') := by
      have hextent := (hasExtent_readDigits spaced false).drop rfl isBlank
      cases w with
      | nil =>
        obtain ⟨taken, hs, htaken⟩ := hextent (withNext_eq_some_iff.2 (congrArg some hread))
        exact ⟨taken, hs, fun rest' => Option.some.inj (withNext_eq_some_iff.1 (htaken rest'))⟩
      | cons c w =>
        obtain ⟨taken, hs, htaken⟩ := hextent (withNext_eq_some_iff.2 (congrArg some hread))
        refine ⟨taken ++ w ++ [e], by simp [hs], fun rest' => ?_⟩
        have := Option.some.inj (withNext_eq_some_iff.1 (htaken (w ++ e :: rest')))
        simpa using this
    refine ⟨taken, hs, fun rest' => ?_⟩
    rw [withNext_eq_some_iff, readCount?, htaken]
    dsimp only
    rw [if_neg hnumber, hw]

/-- A number does not begin with a closing brace. -/
theorem readCount?_close (spaced : Bool) (s : List Char) : readCount? spaced ('}' :: s) = none := by
  have hdigits : readDigits spaced false ('}' :: s) = ([], '}' :: s) := by
    rw [readDigits]
    cases spaced <;> rfl
  rw [readCount?, List.dropWhile_cons_of_neg (by decide), hdigits]
  rfl

theorem extent_readTimes? {modes : Modes} {s rest : List Char} {least : Nat} {most : Option Nat}
    (h : readTimes? modes s = some (least, most, rest)) :
    ∃ taken, s = taken ++ rest ∧
      ∀ rest', readTimes? modes (taken ++ rest') = some (least, most, rest') := by
  have hcount := (hasExtent_readCount? modes.spaced).skip rfl modes.spaced
  unfold readTimes? at h
  split at h
  · cases h
  · next least' after hleast =>
    split at h
    · next after =>
      simp only [Option.some.injEq, Prod.mk.injEq] at h
      obtain ⟨rfl, rfl, rfl⟩ := h
      obtain ⟨taken, rfl, htaken⟩ := hcount (withNext_eq_some_iff.2 hleast)
      refine ⟨taken, rfl, fun rest' => ?_⟩
      simp only [readTimes?, withNext_eq_some_iff.1 (htaken rest')]
    · next after =>
      obtain ⟨taken, rfl, htaken⟩ := hcount (withNext_eq_some_iff.2 hleast)
      split at h
      · next hclose =>
        simp only [Option.some.injEq, Prod.mk.injEq] at h
        obtain ⟨rfl, rfl, rfl⟩ := h
        obtain ⟨p, rfl, hp⟩ := exists_skipped hclose
        refine ⟨taken ++ p ++ ['}'], by simp, fun rest' => ?_⟩
        have htimes := withNext_eq_some_iff.1 (htaken (p ++ '}' :: rest'))
        rw [List.append_assoc, List.append_assoc, List.singleton_append]
        simp only [readTimes?, htimes, hp]
      · split at h
        · next most' after' hmost =>
          split at h
          · cases h
          · next hle =>
            simp only [Option.some.injEq, Prod.mk.injEq] at h
            obtain ⟨rfl, rfl, rfl⟩ := h
            obtain ⟨taken', rfl, htaken'⟩ := hcount (withNext_eq_some_iff.2 hmost)
            refine ⟨taken ++ taken', by simp, fun rest' => ?_⟩
            have htimes := withNext_eq_some_iff.1 (htaken (taken' ++ rest'))
            have hmost' := withNext_eq_some_iff.1 (htaken' rest')
            rw [List.append_assoc]
            simp only [readTimes?, htimes]
            split
            · next hclose =>
              rw [hclose, readCount?_close] at hmost'
              cases hmost'
            · simp only [hmost', if_neg hle]
        · cases h
    · cases h

/-! ## Escapes -/

theorem readSome?_nil (spaced : Bool) (count : Nat) : readSome? spaced (count + 1) [] = none := by
  rw [readSome?, skipBlanks]

/-- The digits of a code point, in braces or as many of them as there must be. -/
def readCodeDigits? (spaced : Bool) (width : Nat) (s : List Char) :
    Option (List Char × List Char) :=
  match s with
  | '{' :: rest => readBraced? spaced false rest
  | s => readSome? spaced width s

theorem hasExtent_readCodeDigits? (spaced : Bool) (width : Nat) :
    HasExtent (readCodeDigits? spaced (width + 1)) := by
  intro s digits rest h
  unfold readCodeDigits? at h
  split at h
  · exact (hasExtent_readBraced? spaced false h).cons fun _ => rfl
  · next hbrace =>
    obtain ⟨c, taken, rfl, htaken⟩ :=
      (hasExtent_readSome? spaced (width + 1)).exists_cons (readSome?_nil spaced width) h
    refine ⟨c :: taken, rfl, fun rest' => ?_⟩
    rw [readCodeDigits?]
    · exact htaken rest'
    · rintro more hmore
      obtain ⟨rfl, -⟩ := List.cons.inj hmore
      exact hbrace _ rfl

theorem readCode?_eq (spaced : Bool) (width : Nat) (s : List Char) :
    readCode? spaced width s = (readCodeDigits? spaced width (skipBlanks spaced s)).bind
      fun found => (charOfDigits? found.1).map (·, found.2) := by
  unfold readCode?
  split
  · next hs =>
    simp only [hs, readCodeDigits?, Option.map_eq_bind]
    rfl
  · next hs =>
    rw [readCodeDigits?]
    · simp only [Option.map_eq_bind]
      rfl
    · exact hs

/-- There is no code point where only blanks are left. -/
theorem readCode?_of_blanks {spaced : Bool} {s : List Char} (h : skipBlanks spaced s = [])
    (width : Nat) : readCode? spaced (width + 1) s = none := by
  rw [readCode?_eq, h, readCodeDigits?, readSome?_nil, Option.bind_none]
  rintro rest hrest
  cases hrest

theorem hasExtent_readCode? (spaced : Bool) (width : Nat) :
    HasExtent (readCode? spaced (width + 1)) := by
  rw [funext (readCode?_eq spaced (width + 1))]
  exact ((hasExtent_readCodeDigits? spaced width).skip (readSome?_nil spaced width)
    spaced).filterMap charOfDigits?

/-- The name of a property, in braces or of one letter. -/
def readPropertyName? (spaced : Bool) (s : List Char) :
    Option ((List Char × Bool) × List Char) :=
  match s with
  | '{' :: rest => (readBraced? spaced false rest).map fun found => ((found.1, true), found.2)
  | '\\' :: _ => none
  | c :: rest => some (([c], false), rest)
  | [] => none

theorem hasExtent_readPropertyName? (spaced : Bool) : HasExtent (readPropertyName? spaced) := by
  intro s name rest h
  unfold readPropertyName? at h
  split at h
  · exact Takes.cons ((hasExtent_readBraced? spaced false).map (·, true) h) fun _ => rfl
  · cases h
  · next c r hbrace hslash =>
    obtain ⟨rfl, rfl⟩ := Prod.mk.inj (Option.some.inj h)
    refine .one fun s => ?_
    rw [readPropertyName?]
    · rintro rfl
      exact hbrace rfl
    · rintro rfl
      exact hslash rfl
  · cases h

theorem readProperty?_eq (spaced : Bool) (s : List Char) :
    readProperty? spaced s = (readPropertyName? spaced (skipBlanks spaced s)).bind fun found =>
      (if found.1.2 then readProperty?.named? found.1.1
        else categoryRanges? (plainName found.1.1)).map (·, found.2) := by
  unfold readProperty?
  split
  · next hs =>
    simp only [hs, readPropertyName?]
    split
    · next hread => simp [hread]
    · next hread => simp [hread]
  · next hs => simp only [hs, readPropertyName?]; rfl
  · next hbrace hslash hs =>
    rw [hs, readPropertyName?]
    · rfl
    · exact hbrace
    · exact hslash
  · next hs => simp only [hs, readPropertyName?]; rfl

theorem hasExtent_readProperty? (spaced : Bool) : HasExtent (readProperty? spaced) := by
  rw [funext (readProperty?_eq spaced)]
  exact ((hasExtent_readPropertyName? spaced).skip rfl spaced).filterMap fun name =>
    if name.2 then readProperty?.named? name.1 else categoryRanges? (plainName name.1)

theorem hasExtent_readByteCode? (modes : Modes) : HasExtent (readByteCode? modes) := by
  intro s c rest h
  unfold readByteCode? at h
  split at h
  · next d r hcode =>
    dsimp only at h
    split at h
    · next hallowed =>
      obtain ⟨rfl, rfl⟩ := Prod.mk.inj (Option.some.inj h)
      obtain ⟨taken, rfl, htaken⟩ := hasExtent_readCode? modes.spaced 1 hcode
      -- Whether the digits stand in braces is seen from the characters that are taken.
      have hsome : skipBlanks modes.spaced taken ≠ [] := fun hnil => by
        have := htaken []
        rw [List.append_nil, readCode?_of_blanks hnil] at this
        cases this
      refine ⟨taken, rfl, fun rest' => ?_⟩
      rw [readByteCode?, htaken]
      dsimp only
      rw [skipBlanks_append hsome, List.head?_append_of_ne_nil _ hsome] at hallowed ⊢
      rw [if_pos hallowed]
    · cases h
  · cases h

/-- A `\b` before this text is a plain word boundary, and not one that is named in braces. -/
def EdgeBefore (modes : Modes) (rest : List Char) : Prop :=
  readWordBoundary? modes rest = some (.boundary (.wordEdge modes.word), rest)

/-- The readers that look ahead see no difference between the two texts. -/
structure SameAhead (modes : Modes) (rest rest' : List Char) : Prop where
  nil : rest = [] → rest' = []
  kept : skipBlanks modes.spaced rest = rest → skipBlanks modes.spaced rest' = rest'
  question : (skipBlanks modes.spaced rest').head? = some '?' →
    (skipBlanks modes.spaced rest).head? = some '?'
  edge : EdgeBefore modes rest → EdgeBefore modes rest'

/-- The reader takes `x` from the text and leaves the rest, which may be exchanged for one that is
like it. -/
def TakesBefore {α : Type} (like : List Char → Prop) (read : List Char → Option (α × List Char))
    (s : List Char) (x : α) (rest : List Char) : Prop :=
  ∃ taken, s = taken ++ rest ∧ ∀ rest', like rest' → read (taken ++ rest') = some (x, rest')

theorem Takes.before {α : Type} {read : List Char → Option (α × List Char)} {s rest : List Char}
    {x : α} (h : Takes read s x rest) (like : List Char → Prop) :
    TakesBefore like read s x rest := by
  obtain ⟨taken, hs, htaken⟩ := h
  exact ⟨taken, hs, fun rest' _ => htaken rest'⟩

theorem TakesBefore.cons {α : Type} {like : List Char → Prop}
    {read next : List Char → Option (α × List Char)} {s rest : List Char} {x : α} {c : Char}
    (h : TakesBefore like next s x rest) (hread : ∀ s, read (c :: s) = next s) :
    TakesBefore like read (c :: s) x rest := by
  obtain ⟨taken, rfl, htaken⟩ := h
  exact ⟨c :: taken, rfl, fun rest' hlike => (hread _).trans (htaken rest' hlike)⟩

/-- A word boundary may be followed by what looks the same. -/
def LikeAhead (modes : Modes) (e : Escape) (rest rest' : List Char) : Prop :=
  e = .boundary (.wordEdge modes.word) → SameAhead modes rest rest'

theorem extent_readWordBoundary? {modes : Modes} {s rest : List Char} {e : Escape}
    (h : readWordBoundary? modes s = some (e, rest)) :
    TakesBefore (LikeAhead modes e rest) (readWordBoundary? modes) s e rest := by
  have hplain : (e, rest) = (.boundary (.wordEdge modes.word), s) →
      TakesBefore (LikeAhead modes e rest) (readWordBoundary? modes) s e rest := by
    intro heq
    obtain ⟨rfl, rfl⟩ := Prod.mk.inj heq
    exact ⟨[], rfl, fun rest' hlike => (hlike rfl).edge h⟩
  unfold readWordBoundary? at h
  dsimp only at h
  split at h
  · next r =>
    split at h
    · cases h
    · next c more hmore =>
      split at h
      · exact hplain (Option.some.inj h).symm
      · next hletter =>
        split at h
        · next name after hname =>
          obtain ⟨b, hb, heq⟩ := Option.map_eq_some_iff.1 h
          obtain ⟨rfl, rfl⟩ := Prod.mk.inj heq
          obtain ⟨taken, rfl, htaken⟩ := hasExtent_readBraced? modes.spaced false hname
          refine ⟨'{' :: taken, rfl, fun rest' _ => ?_⟩
          have hsome : skipBlanks modes.spaced taken ≠ [] := fun hnil => by
            have := htaken []
            rw [List.append_nil, ← readBraced?_skipBlanks, hnil] at this
            cases this
          obtain ⟨d, tail, hd⟩ := List.exists_cons_of_ne_nil hsome
          rw [skipBlanks_append hsome, hd] at hmore
          obtain ⟨rfl, -⟩ := List.cons.inj hmore
          unfold readWordBoundary?
          simp only [List.cons_append, skipBlanks_append hsome, hd, if_neg hletter, htaken, hb,
            Option.map_some]
        · cases h
  · exact hplain (Option.some.inj h).symm

/-- An escape that is none of the letters with a meaning of their own. -/
theorem readEscape?_other {modes : Modes} {c : Char} (hx : c ≠ 'x') (hu : c ≠ 'u') (hU : c ≠ 'U')
    (hp : c ≠ 'p') (hP : c ≠ 'P') (hA : c ≠ 'A') (hz : c ≠ 'z') (hb : c ≠ 'b') (hB : c ≠ 'B')
    (hlt : c ≠ '<') (hgt : c ≠ '>') (s : List Char) :
    readEscape? modes (c :: s) =
      (if isEscapable c then some (.literal c)
        else ((letterClass? modes c).map .set).or ((controlChar? c).map .literal)).map (·, s) := by
  rw [readEscape?]
  · split
    · rfl
    · cases letterClass? modes c <;> cases controlChar? c <;> rfl
  all_goals assumption

/-- **An escape is read from its own characters**, and a word boundary before what looks the
same. -/
theorem extent_readEscape? {modes : Modes} {s rest : List Char} {e : Escape}
    (h : readEscape? modes s = some (e, rest)) :
    TakesBefore (LikeAhead modes e rest) (readEscape? modes) s e rest := by
  cases s with
  | nil => cases h
  | cons c s =>
    have hone : ∀ x : Escape, some (x, s) = some (e, rest) →
        (∀ s, readEscape? modes (c :: s) = some (x, s)) →
        TakesBefore (LikeAhead modes e rest) (readEscape? modes) (c :: s) e rest := by
      intro x hfound hread
      obtain ⟨rfl, rfl⟩ := Prod.mk.inj (Option.some.inj hfound)
      exact (Takes.one hread).before _
    have hread := h
    unfold readEscape? at hread
    dsimp only at hread
    split at hread
    · exact (((hasExtent_readByteCode? modes).map .literal hread).cons fun _ => rfl).before _
    · exact (((hasExtent_readCode? modes.spaced 3).map .literal hread).cons fun _ => rfl).before _
    · exact (((hasExtent_readCode? modes.spaced 7).map .literal hread).cons fun _ => rfl).before _
    · split at hread
      · cases hread
      · next hunicode =>
        refine (((hasExtent_readProperty? modes.spaced).map (.set <| modes.fold ·)
          hread).cons fun s => ?_).before _
        show (if !modes.unicode then none else _) = _
        rw [if_neg hunicode]
    · split at hread
      · cases hread
      · next hunicode =>
        refine (((hasExtent_readProperty? modes.spaced).map
          (.set <| CharSet.complement <| modes.fold ·) hread).cons fun s => ?_).before _
        show (if !modes.unicode then none else _) = _
        rw [if_neg hunicode]
    · exact hone _ hread fun _ => rfl
    · exact hone _ hread fun _ => rfl
    · exact (extent_readWordBoundary? hread).cons fun _ => rfl
    · exact hone _ hread fun _ => rfl
    · exact hone _ hread fun _ => rfl
    · exact hone _ hread fun _ => rfl
    · next hx hu hU hp hP hA hz hb hB hlt hgt =>
      have hother := @readEscape?_other modes c hx hu hU hp hP hA hz hb hB hlt hgt
      rw [hother] at h
      obtain ⟨x, hfound, heq⟩ := Option.map_eq_some_iff.1 h
      refine hone x (congrArg some heq) fun s => ?_
      rw [hother, hfound, Option.map_some]

end ModelProbe.Pattern
