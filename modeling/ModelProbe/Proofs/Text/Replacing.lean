import ModelProbe.Text.Search
/-!
# Pieces that are replaced

Replacing goes over a text once, from left to right, and never looks at what it has put in. Still
nothing is left of the piece, when what is put in has no character of it; and what stands before the
piece is kept, when a character that the piece does not have parts the two.

* `not_infix_replace`: after its replacement a piece occurs nowhere.
* `replace_append_cons`: a text without the piece is kept, up to a character that the piece does not
  have.
-/

namespace ModelProbe.Text

variable {old new : List Char}

/-! ## One step of a replacement -/

theorem dropPiece?_eq_none_iff {piece s : List Char} :
    dropPiece? piece s = none ↔ ¬ piece <+: s := by
  rw [Option.eq_none_iff_forall_not_mem]
  constructor
  · rintro h ⟨rest, hrest⟩
    exact h rest (dropPiece?_eq_some_iff.2 hrest.symm)
  · intro h rest hrest
    exact h ⟨rest, (dropPiece?_eq_some_iff.1 hrest).symm⟩

/-- Where the piece stands, it is replaced. -/
theorem replace_append_self (hne : old ≠ []) (s : List Char) :
    replace old new (old ++ s) = new ++ replace old new s := by
  obtain ⟨p, ps, rfl⟩ := List.exists_cons_of_ne_nil hne
  rw [List.cons_append, replace, if_neg (by simp)]
  split
  · next rest h =>
    have hrest : (p :: ps) ++ s = (p :: ps) ++ rest := dropPiece?_eq_some_iff.1 h
    rw [List.append_cancel_left hrest]
  · next h => exact absurd (List.prefix_append (p :: ps) s) (dropPiece?_eq_none_iff.1 h)

/-- Where the piece does not stand, the text is kept. -/
theorem replace_cons_kept (new : List Char) {c : Char} {s : List Char} (h : ¬ old <+: c :: s) :
    replace old new (c :: s) = c :: replace old new s := by
  have hne : old ≠ [] := by
    rintro rfl
    exact h List.nil_prefix
  rw [replace, if_neg (by simpa using hne)]
  split
  · next rest hrest => exact absurd ⟨rest, (dropPiece?_eq_some_iff.1 hrest).symm⟩ h
  · rfl

/-- A character of the output that what is put in does not begin with was kept. -/
theorem eq_of_replace_cons {c d : Char} {s t : List Char} (hold : old ≠ []) (hnew : new ≠ [])
    (hd : new.head? ≠ some d) (h : replace old new (c :: s) = d :: t) :
    c = d ∧ replace old new s = t := by
  by_cases hfound : old <+: c :: s
  · obtain ⟨rest, hrest⟩ := hfound
    obtain ⟨n, ns, rfl⟩ := List.exists_cons_of_ne_nil hnew
    rw [← hrest, replace_append_self hold, List.cons_append, List.cons.injEq] at h
    exact absurd (congrArg some h.1) hd
  · rw [replace_cons_kept new hfound, List.cons.injEq] at h
    exact h

/-! ## Nothing is left of the piece -/

/-- What the output of a replacement begins with, the text began with, unless it has a character of
what was put in. -/
theorem prefix_of_prefix_replace (hnew : new ≠ []) {t s : List Char} (ht : ∀ c ∈ t, c ∉ new)
    (h : t <+: replace old new s) : t <+: s := by
  fun_induction replace old new s generalizing t with
  | case1 => exact h
  | case2 => exact h
  | case3 c cs _ rest _ ih =>
    obtain ⟨d, ds, rfl⟩ := List.exists_cons_of_ne_nil hnew
    cases t with
    | nil => exact List.nil_prefix
    | cons x t =>
      rw [List.cons_append, List.cons_prefix_cons] at h
      exact absurd (h.1 ▸ List.mem_cons_self) (ht x List.mem_cons_self)
  | case4 c cs _ _ ih =>
    cases t with
    | nil => exact List.nil_prefix
    | cons x t =>
      rw [List.cons_prefix_cons] at h
      have hrest := ih (fun c hc => ht c (List.mem_cons_of_mem x hc)) h.2
      exact List.cons_prefix_cons.2 ⟨h.1, hrest⟩

/-- A piece that shares no character with `a` does not begin in `a`. -/
theorem infix_of_infix_append {t a s : List Char} (hne : t ≠ []) (ht : ∀ c ∈ t, c ∉ a)
    (h : t <:+: a ++ s) : t <:+: s := by
  induction a with
  | nil => exact h
  | cons c a ih =>
    have hrest : ∀ d ∈ t, d ∉ a := fun d hd hmem => ht d hd (List.mem_cons_of_mem c hmem)
    rw [List.cons_append, List.infix_cons_iff] at h
    rcases h with h | h
    · obtain ⟨x, t, rfl⟩ := List.exists_cons_of_ne_nil hne
      have hx := (List.cons_prefix_cons.1 h).1
      exact absurd (hx ▸ List.mem_cons_self) (ht x List.mem_cons_self)
    · exact ih hrest h

/-- **Nothing is left of a replaced piece.** Neither the kept text nor what was put in, nor both
together, have an occurrence of it. -/
theorem not_infix_replace (hold : old ≠ []) (hnew : new ≠ []) (hapart : ∀ c ∈ old, c ∉ new)
    (s : List Char) : ¬ old <:+: replace old new s := by
  fun_induction replace old new s with
  | case1 => exact fun h => hold (List.infix_nil.1 h)
  | case2 c cs hempty => exact absurd (List.isEmpty_iff.1 hempty) hold
  | case3 c cs _ rest _ ih => exact fun h => ih (infix_of_infix_append hold hapart h)
  | case4 c cs hne hnone ih =>
    have hkept := dropPiece?_eq_none_iff.1 hnone
    intro h
    rw [List.infix_cons_iff] at h
    rcases h with h | h
    · -- An occurrence at this place would have been found before the rest was replaced.
      rw [← replace_cons_kept new hkept] at h
      exact hkept (prefix_of_prefix_replace hnew hapart h)
    · exact ih h

/-! ## Texts with one occurrence -/

/-- A text in which the piece does not occur is kept. -/
theorem replace_of_not_infix {s : List Char} (h : ¬ old <:+: s) : replace old new s = s := by
  induction s with
  | nil => rw [replace]
  | cons c s ih =>
    rw [List.infix_cons_iff, not_or] at h
    rw [replace_cons_kept new h.1, ih h.2]

/-- A piece replaced by itself leaves the text as it was. -/
theorem replace_self (s : List Char) : replace old old s = s := by
  fun_induction replace old old s with
  | case1 => rfl
  | case2 => rfl
  | case3 c cs _ rest h ih => rw [ih, dropPiece?_eq_some_iff.1 h]
  | case4 c cs _ _ ih => rw [ih]

/-- A piece that a text begins with ends before a character that it does not have. -/
theorem prefix_of_prefix_append_cons {t a s : List Char} {c : Char} (hc : c ∉ t)
    (h : t <+: a ++ c :: s) : t <+: a := by
  have hlead : a ++ [c] <+: a ++ c :: s := ⟨s, by simp⟩
  rcases List.prefix_or_prefix_of_prefix h hlead with hshort | hlong
  · rcases List.prefix_concat_iff.1 hshort with rfl | hin
    · exact absurd (by simp) hc
    · exact hin
  · exact absurd (hlong.subset (by simp)) hc

/-- A text without the piece is kept, up to a character that the piece does not have. -/
theorem replace_append_cons {a : List Char} {c : Char} (hc : c ∉ old) (ha : ¬ old <:+: a)
    (s : List Char) : replace old new (a ++ c :: s) = a ++ c :: replace old new s := by
  induction a with
  | nil =>
    have hne : ¬ old <+: c :: s := by
      intro h
      have hnil := prefix_of_prefix_append_cons (a := []) hc h
      exact ha hnil.isInfix
    exact replace_cons_kept new hne
  | cons x a ih =>
    rw [List.infix_cons_iff, not_or] at ha
    have hne : ¬ old <+: x :: (a ++ c :: s) := by
      intro h
      exact ha.1 (prefix_of_prefix_append_cons (a := x :: a) hc h)
    rw [List.cons_append, replace_cons_kept new hne, ih ha.2, List.cons_append]

end ModelProbe.Text
