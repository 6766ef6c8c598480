/-!
# Finding and replacing pieces of a text

Splitting at a character or at the first occurrence of a piece, and replacing a piece from left
to right.

* `splitFirst?_eq_some`: what stands before the first separator has no separator.
* `dropPiece?_eq_some_iff`: dropping a piece succeeds exactly on the texts that begin with it.
-/

namespace ModelProbe.Text

/-- The text before and after the first `sep`. -/
def splitFirst? (sep : Char) : List Char → Option (List Char × List Char)
  | [] => none
  | c :: cs =>
    if c = sep then some ([], cs)
    else (splitFirst? sep cs).map fun (before, after) => (c :: before, after)

/-- The text before and after the last `sep`. -/
def splitLast? (sep : Char) (s : List Char) : Option (List Char × List Char) :=
  (splitFirst? sep s.reverse).map fun (after, before) => (before.reverse, after.reverse)

/-- The pieces of the text between the separators; one more than there are separators. -/
def splitOn (sep : Char) : List Char → List (List Char)
  | [] => [[]]
  | c :: cs =>
    if c = sep then [] :: splitOn sep cs
    else
      match splitOn sep cs with
      | piece :: pieces => (c :: piece) :: pieces
      | [] => [[c]]

/-- The rest of the text after `piece`, when it begins with it. -/
def dropPiece? : (piece : List Char) → List Char → Option (List Char)
  | [], s => some s
  | _ :: _, [] => none
  | p :: ps, c :: cs => if p = c then dropPiece? ps cs else none

/-- The text before and after the first occurrence of `piece`. -/
def cutAt? (piece : List Char) : List Char → Option (List Char × List Char)
  | [] => if piece.isEmpty then some ([], []) else none
  | c :: cs =>
    match dropPiece? piece (c :: cs) with
    | some rest => some ([], rest)
    | none => (cutAt? piece cs).map fun (before, after) => (c :: before, after)

theorem dropPiece?_eq_some_iff {piece s rest : List Char} :
    dropPiece? piece s = some rest ↔ s = piece ++ rest := by
  induction piece generalizing s with
  | nil => simp [dropPiece?, eq_comm]
  | cons p ps ih =>
    cases s with
    | nil => simp [dropPiece?]
    | cons c cs =>
      by_cases h : p = c
      · simp [dropPiece?, h, ih]
      · simp [dropPiece?, h, Ne.symm h]

theorem length_of_dropPiece? {piece s rest : List Char} (h : dropPiece? piece s = some rest) :
    s.length = piece.length + rest.length := by
  simp [dropPiece?_eq_some_iff.1 h]

/-- Every occurrence of `old`, found from left to right and without overlap, becomes `new`;
an empty `old` occurs nowhere. -/
def replace (old new : List Char) : List Char → List Char
  | [] => []
  | c :: cs =>
    if old.isEmpty then c :: cs
    else
      match _h : dropPiece? old (c :: cs) with
      | some rest => new ++ replace old new rest
      | none => c :: replace old new cs
termination_by s => s.length
decreasing_by
  · have := length_of_dropPiece? ‹_›
    have : 0 < old.length := by
      rw [List.length_pos_iff]; simpa using ‹¬ old.isEmpty = true›
    omega
  · simp

/-- The texts with `sep` between them. -/
def joinWith (sep : List Char) : List (List Char) → List Char
  | [] => []
  | [s] => s
  | s :: rest => s ++ sep ++ joinWith sep rest

/-! ## What the splits say about the text -/

theorem splitFirst?_eq_some {sep : Char} {s before after : List Char}
    (h : splitFirst? sep s = some (before, after)) :
    s = before ++ sep :: after ∧ sep ∉ before := by
  induction s generalizing before with
  | nil => simp [splitFirst?] at h
  | cons c cs ih =>
    by_cases hc : c = sep
    · simp [splitFirst?, hc] at h
      obtain ⟨rfl, rfl⟩ := h
      simp [hc]
    · simp only [splitFirst?, hc, if_false, Option.map_eq_some_iff, Prod.exists, Prod.mk.injEq] at h
      obtain ⟨b, a, hba, rfl, rfl⟩ := h
      obtain ⟨rfl, hb⟩ := ih hba
      simp [hb, Ne.symm hc]

theorem splitFirst?_eq_none_iff {sep : Char} {s : List Char} :
    splitFirst? sep s = none ↔ sep ∉ s := by
  induction s with
  | nil => simp [splitFirst?]
  | cons c cs ih =>
    by_cases hc : c = sep
    · simp [splitFirst?, hc]
    · simp [splitFirst?, hc, ih, Ne.symm hc]

end ModelProbe.Text
