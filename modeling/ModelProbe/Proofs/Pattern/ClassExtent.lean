import ModelProbe.Proofs.Pattern.Extent
import ModelProbe.Proofs.Text.Trimming
/-!
# What a character class takes

A class is read up to its own closing bracket, with the classes that stand in it. Some characters
are only told by the ones after them, a hyphen or the sign of a set operation; but in a class that
is closed these are still before the bracket.

* `readClassItems?_succ`: a class is read piece by piece.
* `extent_readClassItems?`: what is read of a class rests on the characters up to its bracket.
* `hasExtent_readClass?`: so it is for a whole class.
-/

namespace ModelProbe.Pattern

open Text

/-! ## Items -/

/-- What an escape stands for in a class, where characters may be restricted to ASCII. -/
def inClass? (modes : Modes) : Escape → Option Escape
  | .literal c => if modes.unicode || c.toNat < 128 then some (.literal c) else none
  | e => some e

theorem readClassItem?_backslash (modes : Modes) (s : List Char) :
    readClassItem? modes ('\\' :: s) =
      (readEscape? modes s).bind fun found => (inClass? modes found.1).map (·, found.2) := by
  cases hread : readEscape? modes s with
  | none => simp only [readClassItem?, hread, Option.bind_none]
  | some found =>
    obtain ⟨e, rest⟩ := found
    cases e with
    | literal c =>
      simp only [readClassItem?, hread, Option.bind_some, inClass?]
      split <;> simp only [Option.map_some, Option.map_none]
    | set set => simp only [readClassItem?, hread, Option.bind_some, inClass?, Option.map_some]
    | boundary b => simp only [readClassItem?, hread, Option.bind_some, inClass?, Option.map_some]

theorem readClassItem?_cons {modes : Modes} {c : Char} (hc : c ≠ '\\') (s : List Char) :
    readClassItem? modes (c :: s) = (inClass? modes (.literal c)).map (·, s) := by
  unfold readClassItem?
  split
  · next heq => cases heq
  · next heq => exact absurd (List.cons.inj heq).1 hc
  · next heq =>
    obtain ⟨rfl, rfl⟩ := List.cons.inj heq
    show _ = (if _ then _ else _ : Option Escape).map _
    dsimp only
    split <;> rfl

/-- An item of a class is read from its own characters. -/
theorem extent_readClassItem? {modes : Modes} {s rest : List Char} {e : Escape}
    (h : readClassItem? modes s = some (e, rest)) (hset : ∀ b, e ≠ .boundary b) :
    ∃ c taken, s = c :: (taken ++ rest) ∧
      ∀ rest', readClassItem? modes (c :: (taken ++ rest')) = some (e, rest') := by
  cases s with
  | nil => cases h
  | cons c s =>
    by_cases hc : c = '\\'
    · subst hc
      rw [readClassItem?_backslash] at h
      obtain ⟨⟨found, r⟩, hfound, hin⟩ := Option.bind_eq_some_iff.1 h
      obtain ⟨e', he, heq⟩ := Option.map_eq_some_iff.1 hin
      obtain ⟨rfl, rfl⟩ := Prod.mk.inj heq
      have hno : ∀ b, found ≠ .boundary b := by
        rintro b rfl
        exact hset b (Option.some.inj he).symm
      obtain ⟨taken, rfl, htaken⟩ := extent_readEscape? hfound
      refine ⟨'\\', taken, rfl, fun rest' => ?_⟩
      rw [readClassItem?_backslash, htaken rest' fun hedge => absurd hedge (hno _),
        Option.bind_some, he, Option.map_some]
    · rw [readClassItem?_cons hc] at h
      obtain ⟨e', he, heq⟩ := Option.map_eq_some_iff.1 h
      obtain ⟨rfl, rfl⟩ := Prod.mk.inj heq
      refine ⟨c, [], rfl, fun rest' => ?_⟩
      rw [List.nil_append, readClassItem?_cons hc, he, Option.map_some]

/-! ## ASCII classes -/

/-- The names of the ASCII classes are made of letters. -/
theorem isAlpha_of_asciiClass? {name : List Char} {set : CodeRanges}
    (h : asciiClass? (String.ofList name) = some set) : ∀ c ∈ name, c.isAlpha = true := by
  have hname : ∀ word : String, String.ofList name = word → word.toList.all Char.isAlpha = true →
      ∀ c ∈ name, c.isAlpha = true := by
    rintro word rfl hword
    rwa [String.toList_ofList, List.all_eq_true] at hword
  unfold asciiClass? at h
  split at h
  case h_15 => cases h
  all_goals
    next heq => exact hname _ heq (by decide)

/-- The circumflex of a negated ASCII class. -/
def negation (negated : Bool) : List Char := if negated then ['^'] else []

/-- The rest of an ASCII class after its colon and its circumflex. -/
def readAsciiName? (negated : Bool) (s : List Char) : Option (CodeRanges × List Char) :=
  match splitFirst? ':' s with
  | some (name, ']' :: rest) =>
    (asciiClass? (String.ofList name)).map fun set =>
      (if negated then CharSet.complement set else set, rest)
  | _ => none

theorem readAsciiClass?_plain {s : List Char} (h : ∀ r, s ≠ '^' :: r) :
    readAsciiClass? (':' :: s) = readAsciiName? false s := by
  unfold readAsciiClass?
  split
  · next heq =>
    obtain ⟨-, rfl⟩ := List.cons.inj heq
    split
    next hhead =>
    split at hhead
    · exact absurd rfl (h _)
    · obtain ⟨rfl, rfl⟩ := Prod.mk.inj hhead
      rfl
  · next hno => exact absurd rfl (hno s)

/-- **An ASCII class is a name between colons and a bracket, with or without a circumflex.** -/
theorem readAsciiClass?_eq_some_iff {s rest : List Char} {set : CodeRanges} :
    readAsciiClass? s = some (set, rest) ↔ ∃ negated name inner,
      s = ':' :: (negation negated ++ name ++ [':']) ++ ']' :: rest ∧
      asciiClass? (String.ofList name) = some inner ∧
      set = if negated then CharSet.complement inner else inner := by
  constructor
  · intro h
    unfold readAsciiClass? at h
    split at h
    · next r =>
      split at h
      next negated r' hhead =>
      have hr : r = negation negated ++ r' := by
        split at hhead <;>
        · obtain ⟨rfl, rfl⟩ := Prod.mk.inj hhead
          rfl
      split at h
      · next name after hsplit =>
        obtain ⟨inner, hinner, heq⟩ := Option.map_eq_some_iff.1 h
        obtain ⟨rfl, rfl⟩ := Prod.mk.inj heq
        refine ⟨negated, name, inner, ?_, hinner, rfl⟩
        rw [hr, (splitFirst?_eq_some hsplit).1]
        simp
      · cases h
    · cases h
  · rintro ⟨negated, name, inner, rfl, hinner, rfl⟩
    have hletters := isAlpha_of_asciiClass? hinner
    have hcolon : ':' ∉ name := fun hmem => absurd (hletters _ hmem) (by decide)
    have hname : ∀ negated, readAsciiName? negated (name ++ ':' :: ']' :: rest) =
        some (if negated then CharSet.complement inner else inner, rest) := fun negated => by
      simp only [readAsciiName?, splitFirst?_append hcolon, hinner, Option.map_some]
    cases negated with
    | true =>
      have hs : ':' :: (negation true ++ name ++ [':']) ++ ']' :: rest =
          ':' :: '^' :: (name ++ ':' :: ']' :: rest) := by simp [negation]
      rw [hs, ← hname true]
      rfl
    | false =>
      have hs : ':' :: (negation false ++ name ++ [':']) ++ ']' :: rest =
          ':' :: (name ++ ':' :: ']' :: rest) := by simp [negation]
      rw [hs, readAsciiClass?_plain, hname]
      -- No letter is a circumflex, and neither is the colon.
      intro r hr
      cases name with
      | nil => cases hr
      | cons c name =>
        obtain ⟨rfl, -⟩ := List.cons.inj hr
        exact absurd (hletters _ List.mem_cons_self) (by decide)

/-- An ASCII class is read up to its first closing bracket. -/
theorem extent_readAsciiClass? {s rest : List Char} {set : CodeRanges}
    (h : readAsciiClass? s = some (set, rest)) :
    ∃ taken, s = taken ++ ']' :: rest ∧ ']' ∉ taken ∧
      ∀ rest', readAsciiClass? (taken ++ ']' :: rest') = some (set, rest') := by
  obtain ⟨negated, name, inner, rfl, hinner, rfl⟩ := readAsciiClass?_eq_some_iff.1 h
  refine ⟨':' :: (negation negated ++ name ++ [':']), rfl, ?_, fun rest' =>
    readAsciiClass?_eq_some_iff.2 ⟨negated, name, inner, rfl, hinner, rfl⟩⟩
  have hname : ']' ∉ name := fun hmem =>
    absurd (isAlpha_of_asciiClass? hinner _ hmem) (by decide)
  cases negated <;> simp [negation, hname]

/-- What is no ASCII class up to a closing bracket is none, whatever follows. -/
theorem readAsciiClass?_eq_none {taken rest : List Char}
    (h : readAsciiClass? (taken ++ ']' :: rest) = none) (rest' : List Char) :
    readAsciiClass? (taken ++ ']' :: rest') = none := by
  cases hread : readAsciiClass? (taken ++ ']' :: rest') with
  | none => rfl
  | some found =>
    exfalso
    obtain ⟨set, after⟩ := found
    obtain ⟨name, hname, hbracket, hagain⟩ := extent_readAsciiClass? hread
    -- The name ends at a bracket that is taken.
    obtain ⟨more, hmore⟩ : ∃ more, taken ++ [']'] = name ++ ']' :: more := by
      rcases List.append_eq_append_iff.1 hname with ⟨a, rfl, ha⟩ | ⟨a, rfl, ha⟩
      · cases a with
        | nil => exact ⟨[], by simp⟩
        | cons c a =>
          obtain ⟨rfl, -⟩ := List.cons.inj ha
          simp at hbracket
      · cases a with
        | nil => exact ⟨[], by simp⟩
        | cons c a =>
          obtain ⟨rfl, -⟩ := List.cons.inj ha
          exact ⟨a ++ [']'], by simp⟩
    have hsplit : taken ++ ']' :: rest = name ++ ']' :: (more ++ rest) := by
      rw [List.append_cons, hmore]
      simp
    rw [hsplit, hagain] at h
    cases h

/-! ## Pieces of a class -/

/-- The set that stands before a pending operation, and the one that is read since. -/
abbrev ClassSoFar := Option (CodeRanges × SetOp) × CodeRanges

/-- Reads an item of a class, or a range of two. -/
def readItemPiece? (modes : Modes) (soFar : ClassSoFar) (s : List Char) :
    Option (ClassSoFar × List Char) :=
  match readClassItem? modes s with
  | some (.set ranges, rest) =>
    if beginsRange modes (skipBlanks modes.spaced rest) then none
    else some ((soFar.1, soFar.2 ++ ranges), rest)
  | some (.literal low, rest) =>
    if beginsRange modes (skipBlanks modes.spaced rest) then
      match readClassItem? modes
          (skipBlanks modes.spaced ((skipBlanks modes.spaced rest).drop 1)) with
      | some (.literal high, rest) =>
        if high < low then none
        else some ((soFar.1, soFar.2 ++ [(low.toNat, high.toNat)]), rest)
      | _ => none
    else some ((soFar.1, soFar.2 ++ CharSet.single low), rest)
  | _ => none

/-- Reads one piece of a class that is neither its end nor a class that stands in it. -/
def readClassPiece? (modes : Modes) (soFar : ClassSoFar) (s : List Char) :
    Option (ClassSoFar × List Char) :=
  let ends (op : SetOp) : ClassSoFar := (some (closeOp modes soFar.1 soFar.2, op), [])
  match s with
  | '[' :: rest =>
    (readAsciiClass? rest).map fun found => ((soFar.1, soFar.2 ++ found.1), found.2)
  | '&' :: '&' :: rest => some (ends .intersection, rest)
  | '-' :: '-' :: rest => some (ends .difference, rest)
  | '~' :: '~' :: rest => some (ends .symmetricDifference, rest)
  | s => readItemPiece? modes soFar s

/-- What a class is when it ends. -/
def finishClass? (modes : Modes) (negated : Bool) (soFar : ClassSoFar) : Option CodeRanges :=
  let all := modes.fold (closeOp modes soFar.1 soFar.2)
  let all := if negated then CharSet.complement all else all
  if modes.allows all then some all else none

theorem readClassItems?_skipBlanks (modes : Modes) (negated : Bool) (fuel : Nat)
    (pending : Option (CodeRanges × SetOp)) (set : CodeRanges) (s : List Char) :
    readClassItems? modes negated fuel pending set (skipBlanks modes.spaced s) =
      readClassItems? modes negated fuel pending set s := by
  cases fuel with
  | zero => rfl
  | succ fuel => rw [readClassItems?, skipBlanks_skipBlanks, readClassItems?]

/-- Reads a class that stands in another one, after its opening bracket. -/
def readInner? (modes : Modes) (fuel : Nat) (s : List Char) : Option (CodeRanges × List Char) :=
  let (negated, start, rest) := readClassItems?.openClass modes s
  readClassItems? modes negated fuel none start rest

/-- The text begins with no set operation and no bracket. -/
structure BeginsItem (s : List Char) : Prop where
  bracket : ∀ r, s ≠ '[' :: r
  intersection : ∀ r, s ≠ '&' :: '&' :: r
  difference : ∀ r, s ≠ '-' :: '-' :: r
  symmetricDifference : ∀ r, s ≠ '~' :: '~' :: r

theorem readClassPiece?_item {modes : Modes} {soFar : ClassSoFar} {s : List Char}
    (h : BeginsItem s) : readClassPiece? modes soFar s = readItemPiece? modes soFar s := by
  rw [readClassPiece?]
  · exact h.bracket
  · exact h.intersection
  · exact h.difference
  · exact h.symmetricDifference

/-- **A class is read piece by piece.** -/
theorem readClassItems?_succ (modes : Modes) (negated : Bool) (fuel : Nat)
    (soFar : ClassSoFar) (s : List Char) :
    readClassItems? modes negated (fuel + 1) soFar.1 soFar.2 s =
      match skipBlanks modes.spaced s with
      | [] => none
      | c :: t =>
        if c = ']' then (finishClass? modes negated soFar).map (·, t)
        else
          match readClassPiece? modes soFar (c :: t) with
          | some (next, rest) => readClassItems? modes negated fuel next.1 next.2 rest
          | none =>
            if c = '[' then
              (readInner? modes fuel t).bind fun found =>
                readClassItems? modes negated fuel soFar.1 (soFar.2 ++ found.1) found.2
            else none := by
  rw [readClassItems?]
  split
  · next hs => rw [hs]
  · next rest hs =>
    rw [hs]
    dsimp only
    rw [if_pos rfl, finishClass?]
    split <;> split <;> rfl
  · next rest hs =>
    rw [hs]
    dsimp only
    rw [if_neg (by decide), if_pos rfl]
    show _ = match (readAsciiClass? rest).map fun found =>
        ((soFar.1, soFar.2 ++ found.1), found.2) with
      | some (next, rest) => _
      | none => _
    cases hascii : readAsciiClass? rest with
    | some found => rfl
    | none =>
      rw [Option.map_none, readInner?]
      dsimp only
      obtain ⟨n, start, items⟩ := readClassItems?.openClass modes rest
      cases readClassItems? modes n fuel none start items <;> rfl
  · next rest hs =>
    rw [hs]
    rfl
  · next rest hs =>
    rw [hs]
    rfl
  · next rest hs =>
    rw [hs]
    rfl
  · next hnil hclose hopen hand hminus htilde =>
    obtain ⟨c, t, hs⟩ := List.exists_cons_of_ne_nil hnil
    rw [hs] at hclose hopen hand hminus htilde ⊢
    dsimp only
    rw [readClassPiece?_item ⟨hopen, hand, hminus, htilde⟩, readItemPiece?,
      if_neg fun hc => hclose t (congrArg (· :: t) hc),
      if_neg fun hc => hopen t (congrArg (· :: t) hc)]
    cases hitem : readClassItem? modes (c :: t) with
    | none => rfl
    | some found =>
      obtain ⟨e, rest⟩ := found
      cases e with
      | boundary b => rfl
      | set ranges =>
        dsimp only
        split <;> rfl
      | literal low =>
        dsimp only
        split
        · cases readClassItem? modes
            (skipBlanks modes.spaced ((skipBlanks modes.spaced rest).drop 1)) with
          | none => rfl
          | some found =>
            obtain ⟨e, after⟩ := found
            cases e with
            | literal high =>
              dsimp only
              split <;> rfl
            | _ => rfl
        · rw [readClassItems?_skipBlanks]

/-- The readers of a class that look ahead see no difference between the two texts. -/
structure SameInClass (modes : Modes) (rest rest' : List Char) : Prop where
  head : rest.head? = rest'.head?
  range : beginsRange modes (skipBlanks modes.spaced rest) =
    beginsRange modes (skipBlanks modes.spaced rest')

theorem head?_append_congr (taken : List Char) {rest rest' : List Char}
    (h : rest.head? = rest'.head?) :
    (taken ++ rest).head? = (taken ++ rest').head? := by
  cases taken with
  | nil => exact h
  | cons c taken => rfl

/-- Whether two signs begin a text is seen from the character after the first. -/
theorem cons_ne_pair_iff {c x : Char} {s : List Char} :
    (∀ r, c :: s ≠ x :: x :: r) ↔ ¬ (c = x ∧ s.head? = some x) := by
  constructor
  · rintro h ⟨rfl, hs⟩
    cases s with
    | nil => cases hs
    | cons d s =>
      obtain rfl := Option.some.inj hs
      exact h s rfl
  · rintro h r heq
    obtain ⟨rfl, rfl⟩ := List.cons.inj heq
    exact h ⟨rfl, rfl⟩

/-- A text is told to begin with an item by its first two characters. -/
theorem BeginsItem.congr {c : Char} {taken rest rest' : List Char}
    (h : BeginsItem (c :: (taken ++ rest))) (hhead : rest.head? = rest'.head?) :
    BeginsItem (c :: (taken ++ rest')) := by
  have hsame := head?_append_congr taken hhead
  refine ⟨fun r heq => ?_, ?_, ?_, ?_⟩
  · obtain ⟨rfl, -⟩ := List.cons.inj heq
    exact h.bracket _ rfl
  · rw [cons_ne_pair_iff, ← hsame]
    exact cons_ne_pair_iff.1 h.intersection
  · rw [cons_ne_pair_iff, ← hsame]
    exact cons_ne_pair_iff.1 h.difference
  · rw [cons_ne_pair_iff, ← hsame]
    exact cons_ne_pair_iff.1 h.symmetricDifference

/-- Whether a hyphen begins a range is seen from the character after it. -/
theorem beginsRange_hyphen {modes : Modes} {s rest : List Char} {c : Char}
    (h : skipBlanks modes.spaced s = c :: rest) :
    beginsRange modes ('-' :: s) = (c != ']' && c != '-') := by
  rw [beginsRange, h]
  split
  · next heq =>
    obtain ⟨rfl, -⟩ := List.cons.inj heq
    rfl
  · next heq =>
    obtain ⟨rfl, -⟩ := List.cons.inj heq
    rfl
  · next hclose hhyphen =>
    have hc : c ≠ ']' := fun hc => hclose rest (congrArg (· :: rest) hc)
    have hc' : c ≠ '-' := fun hc => hhyphen rest (congrArg (· :: rest) hc)
    simp [hc, hc']

theorem beginsRange_of_ne {modes : Modes} {s : List Char} (h : s.head? ≠ some '-') :
    beginsRange modes s = false := by
  unfold beginsRange
  split
  · exact absurd rfl h
  · rfl

/-- A range begins with a hyphen that is no bracket's and no other hyphen's neighbour. -/
theorem exists_of_beginsRange {modes : Modes} {s : List Char} (h : beginsRange modes s = true) :
    ∃ r, s = '-' :: r := by
  unfold beginsRange at h
  split at h
  · exact ⟨_, rfl⟩
  · cases h

/-- An item or a range is read from its own characters, when the readers that look ahead see no
difference. -/
theorem extent_readItemPiece? {modes : Modes} {soFar next : ClassSoFar} {s rest : List Char}
    (h : readItemPiece? modes soFar s = some (next, rest)) :
    ∃ c taken, s = c :: (taken ++ rest) ∧ ∀ rest', SameInClass modes rest rest' →
      readItemPiece? modes soFar (c :: (taken ++ rest')) = some (next, rest') := by
  unfold readItemPiece? at h
  split at h
  · next ranges after hread =>
    split at h
    · cases h
    · next hrange =>
      obtain ⟨rfl, rfl⟩ := Prod.mk.inj (Option.some.inj h)
      obtain ⟨c, taken, rfl, htaken⟩ := extent_readClassItem? hread (by rintro b ⟨⟩)
      refine ⟨c, taken, rfl, fun rest' hsame => ?_⟩
      rw [readItemPiece?, htaken]
      dsimp only
      rw [← hsame.range, if_neg hrange]
  · next low after hread =>
    obtain ⟨c, taken, rfl, htaken⟩ := extent_readClassItem? hread (by rintro b ⟨⟩)
    split at h
    · next hrange =>
      split at h
      · next high after' hhigh =>
        split at h
        · cases h
        · next hle =>
          -- The hyphen of the range is followed by its other end, which is taken.
          obtain ⟨rfl, rfl⟩ := Prod.mk.inj (Option.some.inj h)
          obtain ⟨r, hr⟩ := exists_of_beginsRange hrange
          rw [hr] at hrange hhigh
          obtain ⟨p, rfl, hp⟩ := exists_skipped hr
          obtain ⟨d, taken', hd, htaken'⟩ := extent_readClassItem? hhigh (by rintro b ⟨⟩)
          rw [List.drop_one, List.tail_cons] at hd
          obtain ⟨p', rfl, hp'⟩ := exists_skipped hd
          refine ⟨c, taken ++ p ++ '-' :: p' ++ d :: taken', by simp, fun rest' _ => ?_⟩
          have hs' : c :: (taken ++ p ++ '-' :: p' ++ d :: taken' ++ rest') =
              c :: (taken ++ (p ++ '-' :: (p' ++ d :: (taken' ++ rest')))) := by simp
          rw [beginsRange_hyphen (hp' _)] at hrange
          rw [hs', readItemPiece?, htaken]
          dsimp only
          rw [hp, beginsRange_hyphen (hp' _), if_pos hrange, List.drop_one, List.tail_cons, hp',
            htaken']
          dsimp only
          rw [if_neg hle]
      · cases h
    · next hrange =>
      obtain ⟨rfl, rfl⟩ := Prod.mk.inj (Option.some.inj h)
      refine ⟨c, taken, rfl, fun rest' hsame => ?_⟩
      rw [readItemPiece?, htaken]
      dsimp only
      rw [← hsame.range, if_neg hrange]
  · cases h

/-- **A piece of a class is read from its own characters**, when the readers that look ahead see
no difference. -/
theorem extent_readClassPiece? {modes : Modes} {soFar next : ClassSoFar} {s rest : List Char}
    (h : readClassPiece? modes soFar s = some (next, rest)) :
    ∃ c taken, s = c :: (taken ++ rest) ∧ ∀ rest', SameInClass modes rest rest' →
      readClassPiece? modes soFar (c :: (taken ++ rest')) = some (next, rest') := by
  unfold readClassPiece? at h
  dsimp only at h
  split at h
  · next r =>
    obtain ⟨⟨set, after⟩, hascii, heq⟩ := Option.map_eq_some_iff.1 h
    obtain ⟨rfl, rfl⟩ := Prod.mk.inj heq
    obtain ⟨taken, rfl, -, htaken⟩ := extent_readAsciiClass? hascii
    refine ⟨'[', taken ++ [']'], by simp, fun rest' _ => ?_⟩
    show (readAsciiClass? (taken ++ [']'] ++ rest')).map _ = _
    rw [List.append_assoc, List.singleton_append, htaken, Option.map_some]
  · next r =>
    obtain ⟨rfl, rfl⟩ := Prod.mk.inj (Option.some.inj h)
    exact ⟨'&', ['&'], rfl, fun rest' _ => rfl⟩
  · next r =>
    obtain ⟨rfl, rfl⟩ := Prod.mk.inj (Option.some.inj h)
    exact ⟨'-', ['-'], rfl, fun rest' _ => rfl⟩
  · next r =>
    obtain ⟨rfl, rfl⟩ := Prod.mk.inj (Option.some.inj h)
    exact ⟨'~', ['~'], rfl, fun rest' _ => rfl⟩
  · next hbracket hand hminus htilde =>
    have hbegins : BeginsItem s := ⟨hbracket, hand, hminus, htilde⟩
    obtain ⟨c, taken, rfl, htaken⟩ := extent_readItemPiece? h
    refine ⟨c, taken, rfl, fun rest' hsame => ?_⟩
    rw [readClassPiece?_item (hbegins.congr hsame.head)]
    exact htaken rest' hsame

/-! ## Classes -/

/-- The head of a class after its negation. -/
def openItems (negated : Bool) (s : List Char) : Bool × CodeRanges × List Char :=
  if !(s.takeWhile (· == '-')).isEmpty then
    (negated, CharSet.single '-', s.dropWhile (· == '-'))
  else
    match s.dropWhile (· == '-') with
    | ']' :: rest => (negated, CharSet.single ']', rest)
    | _ => (negated, [], s.dropWhile (· == '-'))

theorem openClass_negated {modes : Modes} {s rest : List Char}
    (h : skipBlanks modes.spaced s = '^' :: rest) :
    readClassItems?.openClass modes s = openItems true (skipBlanks modes.spaced rest) := by
  unfold readClassItems?.openClass
  simp only [h]
  rfl

theorem openClass_plain {modes : Modes} {s : List Char}
    (h : ∀ rest, skipBlanks modes.spaced s ≠ '^' :: rest) :
    readClassItems?.openClass modes s = openItems false (skipBlanks modes.spaced s) := by
  unfold readClassItems?.openClass
  dsimp only
  split
  · next hs => exact absurd hs (h _)
  · rfl

/-- Hyphens at the head of a class stand for one; without any, a bracket stands for itself. -/
theorem openItems_append {w : List Char} (hw : ∀ c ∈ w, (c == '-') = true) {d : Char}
    (hd : (d == '-') = false) (negated : Bool) (r : List Char) :
    openItems negated (w ++ d :: r) =
      if w ≠ [] then (negated, CharSet.single '-', d :: r)
      else if d = ']' then (negated, CharSet.single ']', r)
      else (negated, [], d :: r) := by
  have htake : (w ++ d :: r).takeWhile (· == '-') = w := by
    rw [List.takeWhile_append_of_pos hw, List.takeWhile_cons_of_neg (by simpa using hd),
      List.append_nil]
  have hdrop : (w ++ d :: r).dropWhile (· == '-') = d :: r := by
    rw [List.dropWhile_append_of_pos hw, List.dropWhile_cons_of_neg (by simpa using hd)]
  unfold openItems
  rw [htake, hdrop]
  cases w with
  | nil =>
    by_cases hclose : d = ']'
    · subst hclose
      rfl
    · rw [if_neg (by simp), if_neg (by simp), if_neg hclose]
      split
      · next heq => exact absurd (List.cons.inj heq).1 hclose
      · rfl
  | cons c w => rfl

/-- The head of a class is read from its own characters and the one after them. -/
theorem extent_openItems {negated n : Bool} {s r : List Char} {start : CodeRanges} {d : Char}
    (h : openItems negated s = (n, start, d :: r)) :
    ∃ taken, s = taken ++ d :: r ∧
      ∀ r', openItems negated (taken ++ d :: r') = (n, start, d :: r') := by
  have hsplit := List.takeWhile_append_dropWhile (p := (· == '-')) (l := s)
  have hall : ∀ c ∈ s.takeWhile (· == '-'), (c == '-') = true := fun c hc =>
    List.all_eq_true.1 List.all_takeWhile c hc
  generalize s.takeWhile (· == '-') = w at hsplit hall
  cases hrest : s.dropWhile (· == '-') with
  | nil =>
    -- Nothing stands behind the hyphens, so nothing is left.
    unfold openItems at h
    rw [hrest] at h
    split at h <;> cases h
  | cons e t =>
    have he : (e == '-') = false := by
      have hhead := List.head?_dropWhile_not (· == '-') s
      rw [hrest] at hhead
      simpa using hhead
    rw [hrest] at hsplit
    subst hsplit
    rw [openItems_append hall he] at h
    split at h
    · next hw =>
      obtain ⟨rfl, hfound⟩ := Prod.mk.inj h
      obtain ⟨rfl, hcons⟩ := Prod.mk.inj hfound
      obtain ⟨rfl, rfl⟩ := List.cons.inj hcons
      refine ⟨w, rfl, fun r' => ?_⟩
      rw [openItems_append hall he, if_pos hw]
    · next hw =>
      rw [ne_eq, not_not] at hw
      subst hw
      split at h
      · next hclose =>
        obtain ⟨rfl, hfound⟩ := Prod.mk.inj h
        obtain ⟨rfl, rfl⟩ := Prod.mk.inj hfound
        refine ⟨[e], rfl, fun r' => ?_⟩
        have hopen := openItems_append hall he negated (d :: r')
        rw [if_neg (by simp), if_pos hclose] at hopen
        exact hopen
      · next hclose =>
        obtain ⟨rfl, hfound⟩ := Prod.mk.inj h
        obtain ⟨rfl, hcons⟩ := Prod.mk.inj hfound
        obtain ⟨rfl, rfl⟩ := List.cons.inj hcons
        refine ⟨[], rfl, fun r' => ?_⟩
        have hopen := openItems_append hall he negated r'
        rw [if_neg (by simp), if_neg hclose] at hopen
        exact hopen

theorem extent_openClass {modes : Modes} {n : Bool} {s r : List Char} {start : CodeRanges}
    {d : Char} (h : readClassItems?.openClass modes s = (n, start, d :: r)) :
    ∃ taken, s = taken ++ d :: r ∧
      ∀ r', readClassItems?.openClass modes (taken ++ d :: r') = (n, start, d :: r') := by
  by_cases hneg : ∃ rest, skipBlanks modes.spaced s = '^' :: rest
  · obtain ⟨rest, hs⟩ := hneg
    rw [openClass_negated hs] at h
    obtain ⟨taken, hrest, htaken⟩ := extent_openItems h
    obtain ⟨p, rfl, hp⟩ := exists_skipped hs
    obtain ⟨p', rfl, hp'⟩ := exists_skipped_append hrest
    refine ⟨p ++ '^' :: (p' ++ taken), by simp, fun r' => ?_⟩
    have hskip := hp (p' ++ (taken ++ d :: r'))
    rw [List.append_assoc, List.cons_append, List.append_assoc, openClass_negated hskip, hp',
      htaken]
  · rw [not_exists] at hneg
    rw [openClass_plain hneg] at h
    obtain ⟨taken, hs, htaken⟩ := extent_openItems h
    obtain ⟨p, rfl, hp⟩ := exists_skipped_append hs
    refine ⟨p ++ taken, by simp, fun r' => ?_⟩
    rw [List.append_assoc, openClass_plain, hp, htaken]
    intro rest heq
    rw [hp] at heq
    rw [hs] at hneg
    cases taken with
    | nil =>
      obtain ⟨rfl, -⟩ := List.cons.inj heq
      exact hneg r rfl
    | cons c taken =>
      obtain ⟨rfl, -⟩ := List.cons.inj heq
      exact hneg _ rfl

theorem extent_openClass_append {modes : Modes} {n : Bool} {s t r : List Char}
    {start : CodeRanges} {d : Char}
    (h : readClassItems?.openClass modes s = (n, start, t ++ d :: r)) :
    ∃ taken, s = taken ++ (t ++ d :: r) ∧ ∀ r',
      readClassItems?.openClass modes (taken ++ (t ++ d :: r')) = (n, start, t ++ d :: r') := by
  cases t with
  | nil => exact extent_openClass h
  | cons c t =>
    obtain ⟨taken, hs, htaken⟩ := extent_openClass h
    exact ⟨taken, hs, fun r' => htaken (t ++ d :: r')⟩

/-- The reading of a class with these texts at hand ends at the bracket behind them. -/
def ClosesClass (modes : Modes) (negated : Bool) (soFar : ClassSoFar) (taken : List Char)
    (all : CodeRanges) : Prop :=
  ∀ rest fuel, taken.length < fuel →
    readClassItems? modes negated fuel soFar.1 soFar.2 (taken ++ ']' :: rest) = some (all, rest)

/-- A class that is read has more than blanks. -/
theorem skipBlanks_ne_nil_of_class {modes : Modes} {negated : Bool} {fuel : Nat}
    {soFar : ClassSoFar} {s : List Char} {found : CodeRanges × List Char}
    (h : readClassItems? modes negated fuel soFar.1 soFar.2 s = some found) :
    skipBlanks modes.spaced s ≠ [] := by
  intro hs
  cases fuel with
  | zero => cases h
  | succ fuel =>
    rw [readClassItems?_succ, hs] at h
    cases h

/-- After a hyphen, too, a class that is read has more than blanks. -/
theorem skipBlanks_ne_nil_of_hyphen {modes : Modes} {negated : Bool} {fuel : Nat}
    {soFar : ClassSoFar} {s t : List Char} {found : CodeRanges × List Char}
    (h : readClassItems? modes negated fuel soFar.1 soFar.2 s = some found)
    (hs : skipBlanks modes.spaced s = '-' :: t) : skipBlanks modes.spaced t ≠ [] := by
  intro ht
  cases fuel with
  | zero => cases h
  | succ fuel =>
    rw [readClassItems?_succ, hs] at h
    dsimp only at h
    rw [if_neg (by decide), if_neg (by decide)] at h
    have hpiece : readClassPiece? modes soFar ('-' :: t) =
        some ((soFar.1, soFar.2 ++ CharSet.single '-'), t) := by
      have hminus : ∀ r, t ≠ '-' :: r := by
        rintro r rfl
        rw [skipBlanks_cons fun _ => ⟨by decide, by decide⟩] at ht
        cases ht
      have hitem : readClassItem? modes ('-' :: t) = some (.literal '-', t) := by
        rw [readClassItem?_cons (by decide), inClass?, if_pos (by simp)]
        rfl
      have hbegins : BeginsItem ('-' :: t) :=
        ⟨fun r heq => absurd (List.cons.inj heq).1 (by decide),
          fun r heq => absurd (List.cons.inj heq).1 (by decide),
          fun r heq => hminus r (List.cons.inj heq).2,
          fun r heq => absurd (List.cons.inj heq).1 (by decide)⟩
      rw [readClassPiece?_item hbegins, readItemPiece?, hitem]
      dsimp only
      rw [ht]
      rfl
    rw [hpiece] at h
    exact skipBlanks_ne_nil_of_class h ht

/-- What follows a closed class plays no part for the readers of the class that look ahead. -/
theorem ClosesClass.same {modes : Modes} {negated : Bool} {soFar : ClassSoFar}
    {taken : List Char} {all : CodeRanges} (h : ClosesClass modes negated soFar taken all)
    (rest rest' : List Char) :
    SameInClass modes (taken ++ ']' :: rest) (taken ++ ']' :: rest') := by
  refine ⟨head?_append_congr taken rfl, ?_⟩
  have hread := h [] (taken.length + 1) (Nat.lt_succ_self _)
  have hskip : ∀ r, skipBlanks modes.spaced (taken ++ ']' :: r) =
      skipBlanks modes.spaced (taken ++ [']']) ++ r := fun r => by
    rw [List.append_cons, skipBlanks_append (skipBlanks_ne_nil_of_class hread)]
  obtain ⟨c, t, ht⟩ := List.exists_cons_of_ne_nil (skipBlanks_ne_nil_of_class hread)
  rw [hskip rest, hskip rest', ht, List.cons_append, List.cons_append]
  by_cases hc : c = '-'
  · subst hc
    obtain ⟨d, u, hu⟩ := List.exists_cons_of_ne_nil (skipBlanks_ne_nil_of_hyphen hread ht)
    have hahead : ∀ r, skipBlanks modes.spaced (t ++ r) = d :: (u ++ r) := fun r => by
      rw [skipBlanks_append (by rw [hu]; exact List.cons_ne_nil d u), hu, List.cons_append]
    rw [beginsRange_hyphen (hahead rest), beginsRange_hyphen (hahead rest')]
  · rw [beginsRange_of_ne (by simpa using hc), beginsRange_of_ne (by simpa using hc)]

section ClosesClass

variable {modes : Modes} {negated : Bool} {soFar : ClassSoFar} {p taken : List Char}
  {all : CodeRanges}

theorem closesClass_of_succ (h : ∀ rest fuel, taken.length ≤ fuel →
      readClassItems? modes negated (fuel + 1) soFar.1 soFar.2 (taken ++ ']' :: rest) =
        some (all, rest)) :
    ClosesClass modes negated soFar taken all := by
  intro rest fuel hfuel
  obtain ⟨k, rfl⟩ := Nat.exists_eq_succ_of_ne_zero (Nat.ne_zero_of_lt hfuel)
  exact h rest k (Nat.le_of_lt_succ hfuel)

/-- Blanks and the bracket end a class. -/
theorem closesClass_blanks
    (hp : ∀ rest, skipBlanks modes.spaced (p ++ ']' :: rest) = ']' :: rest)
    (hall : finishClass? modes negated soFar = some all) :
    ClosesClass modes negated soFar p all := by
  refine closesClass_of_succ fun rest fuel _ => ?_
  rw [readClassItems?_succ, hp]
  dsimp only
  rw [if_pos rfl, hall, Option.map_some]

/-- One more piece stands before the rest of a class. -/
theorem ClosesClass.piece {next : ClassSoFar} (h : ClosesClass modes negated next taken all)
    {c : Char} (hclose : c ≠ ']')
    (hp : ∀ rest, skipBlanks modes.spaced (p ++ c :: rest) = c :: rest) {piece rest₀ : List Char}
    (hpiece : ∀ rest, SameInClass modes (taken ++ ']' :: rest₀) rest →
      readClassPiece? modes soFar (c :: (piece ++ rest)) = some (next, rest)) :
    ClosesClass modes negated soFar (p ++ c :: (piece ++ taken)) all := by
  refine closesClass_of_succ fun rest fuel hfuel => ?_
  simp only [List.length_append, List.length_cons] at hfuel
  have hs : p ++ c :: (piece ++ taken) ++ ']' :: rest =
      p ++ c :: (piece ++ (taken ++ ']' :: rest)) := by simp
  rw [readClassItems?_succ, hs, hp]
  dsimp only
  rw [if_neg hclose, hpiece _ (h.same rest₀ rest)]
  exact h rest fuel (by omega)

/-- One more class stands before the rest of a class. -/
theorem ClosesClass.inner {set : CodeRanges}
    (h : ClosesClass modes negated (soFar.1, soFar.2 ++ set) taken all)
    (hp : ∀ rest, skipBlanks modes.spaced (p ++ '[' :: rest) = '[' :: rest) {n : Bool}
    {start : CodeRanges} {q within rest₀ : List Char}
    (hwithin : ClosesClass modes n (none, start) within set)
    (hq : ∀ rest, readClassItems?.openClass modes (q ++ (within ++ ']' :: rest)) =
      (n, start, within ++ ']' :: rest))
    (hascii : readAsciiClass? (q ++ (within ++ ']' :: rest₀)) = none) :
    ClosesClass modes negated soFar (p ++ '[' :: (q ++ within ++ ']' :: taken)) all := by
  refine closesClass_of_succ fun rest fuel hfuel => ?_
  simp only [List.length_append, List.length_cons] at hfuel
  have hs : p ++ '[' :: (q ++ within ++ ']' :: taken) ++ ']' :: rest =
      p ++ '[' :: (q ++ (within ++ ']' :: (taken ++ ']' :: rest))) := by simp
  have hpiece : readClassPiece? modes soFar
      ('[' :: (q ++ (within ++ ']' :: (taken ++ ']' :: rest)))) = none := by
    rw [← List.append_assoc] at hascii ⊢
    exact Option.map_eq_none_iff.2 (readAsciiClass?_eq_none hascii _)
  have hinner : readInner? modes fuel (q ++ (within ++ ']' :: (taken ++ ']' :: rest))) =
      some (set, taken ++ ']' :: rest) := by
    rw [readInner?, hq]
    exact hwithin _ fuel (by omega)
  rw [readClassItems?_succ, hs, hp]
  dsimp only
  rw [if_neg (by decide), hpiece]
  dsimp only
  rw [if_pos rfl, hinner, Option.bind_some]
  exact h rest fuel (by omega)

end ClosesClass

/-- **What is read of a class rests on the characters up to its bracket.** -/
theorem extent_readClassItems? {modes : Modes} {negated : Bool} {fuel : Nat}
    {soFar : ClassSoFar} {s rest : List Char} {all : CodeRanges}
    (h : readClassItems? modes negated fuel soFar.1 soFar.2 s = some (all, rest)) :
    ∃ taken, s = taken ++ ']' :: rest ∧ ClosesClass modes negated soFar taken all := by
  induction fuel generalizing negated soFar s rest all with
  | zero => cases h
  | succ fuel ih =>
    rw [readClassItems?_succ] at h
    split at h
    · cases h
    · next c t hs =>
      split at h
      · next hclose =>
        subst hclose
        obtain ⟨found, hfound, heq⟩ := Option.map_eq_some_iff.1 h
        obtain ⟨rfl, rfl⟩ := Prod.mk.inj heq
        obtain ⟨p, rfl, hp⟩ := exists_skipped hs
        exact ⟨p, rfl, closesClass_blanks hp hfound⟩
      · next hclose =>
        split at h
        · next next after hpiece =>
          obtain ⟨taken, rfl, htaken⟩ := ih h
          obtain ⟨d, piece, hd, hpiece'⟩ := extent_readClassPiece? hpiece
          obtain ⟨rfl, rfl⟩ := List.cons.inj hd
          obtain ⟨p, rfl, hp⟩ := exists_skipped hs
          exact ⟨p ++ c :: (piece ++ taken), by simp, htaken.piece hclose hp hpiece'⟩
        · next hpiece =>
          split at h
          · next hopen =>
            subst hopen
            obtain ⟨⟨inner, after⟩, hinner, houter⟩ := Option.bind_eq_some_iff.1 h
            change readClassItems? modes negated fuel (Prod.fst (soFar.1, soFar.2 ++ inner))
              (Prod.snd (soFar.1, soFar.2 ++ inner)) after = some (all, rest) at houter
            obtain ⟨taken, rfl, htaken⟩ := ih houter
            cases hhead : readClassItems?.openClass modes t with
            | mk n found =>
            obtain ⟨start, items⟩ := found
            rw [readInner?, hhead] at hinner
            let first : ClassSoFar := (none, start)
            change readClassItems? modes n fuel first.1 first.2 items =
              some (inner, taken ++ ']' :: rest) at hinner
            obtain ⟨within, rfl, hwithin⟩ := ih hinner
            obtain ⟨q, rfl, hq⟩ := extent_openClass_append hhead
            obtain ⟨p, rfl, hp⟩ := exists_skipped hs
            refine ⟨p ++ '[' :: (q ++ within ++ ']' :: taken), by simp, ?_⟩
            exact htaken.inner hp hwithin hq (Option.map_eq_none_iff.1 hpiece)
          · cases h

/-- **A class is read from its own characters.** -/
theorem hasExtent_readClass? (modes : Modes) : HasExtent (readClass? modes) := by
  intro s set rest h
  rw [readClass?] at h
  cases hhead : readClassItems?.openClass modes s with
  | mk n found =>
  obtain ⟨start, items⟩ := found
  rw [hhead] at h
  let first : ClassSoFar := (none, start)
  change readClassItems? modes n (s.length + 1) first.1 first.2 items = some (set, rest) at h
  obtain ⟨within, rfl, hwithin⟩ := extent_readClassItems? h
  obtain ⟨q, rfl, hq⟩ := extent_openClass_append hhead
  refine ⟨q ++ within ++ [']'], by simp, fun rest' => ?_⟩
  have hs' : q ++ within ++ [']'] ++ rest' = q ++ (within ++ ']' :: rest') := by simp
  rw [hs', readClass?, hq]
  refine hwithin rest' _ ?_
  simp only [List.length_append, List.length_cons]
  omega

end ModelProbe.Pattern
