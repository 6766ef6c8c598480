import ModelProbe.Text.Blank
import ModelProbe.Text.Search
/-!
# Trimming and splitting of joined texts

What trimming and splitting make of a text that was put together from pieces. Readers of lines
and heads undo their writers by these laws.

* `trimEnd_append`: only the last piece that is not blank is trimmed.
* `splitOn_append`: a text is split after its first line.
* `words_eq_nil_iff`: only blank texts have no words.
-/

namespace ModelProbe.Text

/-! ## Trimming at the start -/

/-- Blanks in front of a text go when the text is trimmed. -/
theorem trimStart_append_of_blank {a : List Char} (ha : isBlankText a = true) (b : List Char) :
    trimStart (a ++ b) = trimStart b :=
  List.dropWhile_append_of_pos (List.all_eq_true.1 ha)

/-- Trimming a joined text at its start trims the first piece, unless that is blank. -/
theorem trimStart_append (a b : List Char) :
    trimStart (a ++ b) = if (trimStart a).isEmpty then trimStart b else trimStart a ++ b :=
  List.dropWhile_append

/-- What is trimmed at the start does not begin with a blank. -/
theorem isBlank_of_trimStart_eq_cons {s rest : List Char} {c : Char}
    (h : trimStart s = c :: rest) : isBlank c = false := by
  have hhead := List.head?_dropWhile_not isBlank s
  rw [trimStart] at h
  rw [h] at hhead
  simpa using hhead

/-! ## Trimming at the end -/

@[simp] theorem trimEnd_nil : trimEnd [] = [] := rfl

/-- Trimming a joined text at its end trims the last piece, unless that is blank. -/
theorem trimEnd_append (a b : List Char) :
    trimEnd (a ++ b) = if (trimEnd b).isEmpty then trimEnd a else a ++ trimEnd b := by
  rw [trimEnd, List.reverse_append, List.dropWhile_append]
  simp only [trimEnd, List.isEmpty_reverse]
  split
  · rfl
  · rw [List.reverse_append, List.reverse_reverse]

/-- A blank text is trimmed away from its end. -/
theorem trimEnd_of_blank {b : List Char} (hb : isBlankText b = true) : trimEnd b = [] := by
  have hrev : isBlankText b.reverse = true := by rw [isBlankText, List.all_reverse]; exact hb
  have hnil := (trimStart_eq_nil_iff b.reverse).2 hrev
  rw [trimStart] at hnil
  rw [trimEnd, hnil, List.reverse_nil]

/-- Blanks at the end of a text go when the text is trimmed. -/
theorem trimEnd_append_of_blank (a : List Char) {b : List Char} (hb : isBlankText b = true) :
    trimEnd (a ++ b) = trimEnd a := by
  rw [trimEnd_append, trimEnd_of_blank hb]
  rfl

/-- A character that is not blank ends a trimmed text. -/
theorem trimEnd_concat (s : List Char) {c : Char} (hc : isBlank c = false) :
    trimEnd (s ++ [c]) = s ++ [c] := by
  simp [trimEnd, hc]

/-- A trimmed text stands in front of the blanks that were trimmed at its end. -/
theorem exists_trimEnd_append (s : List Char) :
    ∃ w, isBlankText w = true ∧ s = trimEnd s ++ w := by
  refine ⟨(s.reverse.takeWhile isBlank).reverse, ?_, ?_⟩
  · rw [isBlankText, List.all_reverse]
    exact List.all_takeWhile
  · rw [trimEnd, ← List.reverse_append, List.takeWhile_append_dropWhile, List.reverse_reverse]

/-- A decimal digit is no blank. -/
theorem isBlank_of_isDigit {c : Char} (hc : c.isDigit = true) : isBlank c = false := by
  simp only [Char.isDigit, Bool.and_eq_true, decide_eq_true_eq] at hc
  have hlow : 48 ≤ c.toNat := UInt32.le_iff_toNat_le.1 hc.1
  have hhigh : c.toNat ≤ 57 := UInt32.le_iff_toNat_le.1 hc.2
  simp only [isBlank, Bool.or_eq_false_iff, Bool.and_eq_false_iff, decide_eq_false_iff_not,
    beq_eq_false_iff_ne]
  omega

/-- A text without blanks. -/
def Solid (s : List Char) : Prop := ∀ c ∈ s, isBlank c = false

instance (s : List Char) : Decidable (Solid s) :=
  List.decidableBAll (fun c => isBlank c = false) s

/-- A text without blanks is trimmed at its end. -/
theorem trimEnd_of_solid {s : List Char} (hs : Solid s) : trimEnd s = s := by
  rcases List.eq_nil_or_concat s with rfl | ⟨init, c, rfl⟩
  · rfl
  · rw [List.concat_eq_append] at hs ⊢
    exact trimEnd_concat init (hs c (by simp))

/-! ## Trimming at both ends -/

/-- Blanks in front do not count for a trimmed text. -/
theorem trim_append_of_blank_left {a : List Char} (ha : isBlankText a = true) (b : List Char) :
    trim (a ++ b) = trim b := by
  rw [trim, trimStart_append_of_blank ha, trim]

/-- Blanks at the end do not count for a trimmed text. -/
theorem trim_append_of_blank_right (a : List Char) {b : List Char} (hb : isBlankText b = true) :
    trim (a ++ b) = trim a := by
  rw [trim, trimStart_append, trim]
  by_cases ha : (trimStart a).isEmpty = true
  · rw [if_pos ha, (trimStart_eq_nil_iff b).2 hb, List.isEmpty_iff.1 ha]
  · rw [if_neg ha, trimEnd_append_of_blank _ hb]

/-- Trimming at the start once more changes nothing. -/
theorem trim_trimStart (s : List Char) : trim (trimStart s) = trim s := by
  cases h : trimStart s with
  | nil => rw [trim, trim, h, trimStart_nil]
  | cons c rest => rw [trim, trim, h, trimStart_cons (isBlank_of_trimStart_eq_cons h)]

/-- Trimming leaves nothing of a blank text only. -/
theorem trim_eq_nil_iff (s : List Char) : trim s = [] ↔ isBlankText s = true := by
  constructor
  · intro h
    cases hstart : trimStart s with
    | nil => exact (trimStart_eq_nil_iff s).1 hstart
    | cons c rest =>
      -- The first character that is left is no blank, so it is not trimmed at the end.
      obtain ⟨w, hw, hsplit⟩ := exists_trimEnd_append (trimStart s)
      rw [trim] at h
      rw [h, List.nil_append, hstart] at hsplit
      have hc := isBlank_of_trimStart_eq_cons hstart
      rw [← hsplit, isBlankText, List.all_cons, hc] at hw
      cases hw
  · intro h
    rw [trim, (trimStart_eq_nil_iff s).2 h, trimEnd_nil]

/-- A text that is its own trimmed form begins with no blank. -/
theorem trimStart_of_trim_eq {s : List Char} (h : trim s = s) : trimStart s = s := by
  have hlen : s.length ≤ (trimStart s).length := by
    calc s.length = (trim s).length := by rw [h]
      _ ≤ (trimStart s).length := length_trimEnd_le _
  exact (List.dropWhile_suffix isBlank).eq_of_length_le hlen

/-- A text that is its own trimmed form ends with no blank. -/
theorem trimEnd_of_trim_eq {s : List Char} (h : trim s = s) : trimEnd s = s := by
  calc trimEnd s = trimEnd (trimStart s) := by rw [trimStart_of_trim_eq h]
    _ = s := h

/-! ## Splitting -/

/-- The first separator of a joined text stands after a piece that has none. -/
theorem splitFirst?_append {sep : Char} {a : List Char} (ha : sep ∉ a) (b : List Char) :
    splitFirst? sep (a ++ sep :: b) = some (a, b) := by
  induction a with
  | nil => simp [splitFirst?]
  | cons c a ih =>
    rw [List.mem_cons, not_or] at ha
    rw [List.cons_append, splitFirst?, if_neg (Ne.symm ha.1), ih ha.2]
    rfl

/-- The last separator of a joined text stands before a piece that has none. -/
theorem splitLast?_append {sep : Char} (a : List Char) {b : List Char} (hb : sep ∉ b) :
    splitLast? sep (a ++ sep :: b) = some (a, b) := by
  have hrev : (a ++ sep :: b).reverse = b.reverse ++ sep :: a.reverse := by simp
  rw [splitLast?, hrev, splitFirst?_append (mt List.mem_reverse.1 hb)]
  simp

theorem splitLast?_eq_none_iff {sep : Char} {s : List Char} :
    splitLast? sep s = none ↔ sep ∉ s := by
  rw [splitLast?, Option.map_eq_none_iff, splitFirst?_eq_none_iff, List.mem_reverse]

theorem splitLast?_eq_some {sep : Char} {s before after : List Char}
    (h : splitLast? sep s = some (before, after)) : s = before ++ sep :: after := by
  rw [splitLast?, Option.map_eq_some_iff] at h
  obtain ⟨⟨last, first⟩, hsplit, h⟩ := h
  obtain ⟨rfl, rfl⟩ := Prod.mk.inj h
  have hs := congrArg List.reverse (splitFirst?_eq_some hsplit).1
  simpa using hs

/-- A text without separators is one piece. -/
theorem splitOn_of_not_mem {sep : Char} {a : List Char} (ha : sep ∉ a) : splitOn sep a = [a] := by
  induction a with
  | nil => rfl
  | cons c a ih =>
    rw [List.mem_cons, not_or] at ha
    rw [splitOn, if_neg (Ne.symm ha.1), ih ha.2]

/-- A joined text is split after its first piece. -/
theorem splitOn_append {sep : Char} {a : List Char} (ha : sep ∉ a) (b : List Char) :
    splitOn sep (a ++ sep :: b) = a :: splitOn sep b := by
  induction a with
  | nil => simp [splitOn]
  | cons c a ih =>
    rw [List.mem_cons, not_or] at ha
    rw [List.cons_append, splitOn, if_neg (Ne.symm ha.1), ih ha.2]

/-! ## Joining -/

/-- What holds of the characters of all pieces and of the separator holds in the joined text. -/
theorem forall_mem_joinWith {P : Char → Prop} {sep : List Char} (hsep : ∀ c ∈ sep, P c)
    {pieces : List (List Char)} (hpieces : ∀ piece ∈ pieces, ∀ c ∈ piece, P c) :
    ∀ c ∈ joinWith sep pieces, P c := by
  fun_induction joinWith sep pieces with
  | case1 => exact fun c hc => absurd hc List.not_mem_nil
  | case2 piece => exact hpieces piece List.mem_cons_self
  | case3 piece rest _ ih =>
    obtain ⟨hpiece, hrest⟩ := List.forall_mem_cons.1 hpieces
    exact List.forall_mem_append.2 ⟨List.forall_mem_append.2 ⟨hpiece, hsep⟩, ih hrest⟩

/-! ## Words -/

theorem words_go_eq_nil_iff (s : List Char) :
    ∀ word : List Char, words.go word s = [] ↔ word = [] ∧ isBlankText s = true := by
  induction s with
  | nil =>
    intro word
    cases word <;> simp [words.go, isBlankText]
  | cons c cs ih =>
    intro word
    rw [words.go]
    by_cases hc : isBlank c = true
    · rw [if_pos hc]
      cases word with
      | nil => rw [List.isEmpty_nil, if_pos rfl, ih]; simp [isBlankText, hc]
      | cons d word => simp
    · rw [if_neg hc, ih]
      simp [isBlankText, hc]

/-- The texts without words are the blank ones. -/
theorem words_eq_nil_iff (s : List Char) : words s = [] ↔ isBlankText s = true := by
  rw [words, words_go_eq_nil_iff]
  exact and_iff_right rfl

end ModelProbe.Text
