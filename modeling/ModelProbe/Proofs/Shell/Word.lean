import ModelProbe.Shell.Word
/-!
# What becomes of a word in a command line

A word with a blank is printed between quotes, its own quotes protected. Protecting keeps a text
without quotes as it is and makes any other text longer.

* `quoteWord_of_blank`: the printed form of a word with a blank.
* `joinWords_append_cons`: a word stands between the words before and after it.
-/

namespace ModelProbe

/-- A text stands between the texts before it and those after it, each of these with a separator. -/
theorem Text.joinWith_append_cons (sep : List Char) (before after : List (List Char))
    (s : List Char) :
    joinWith sep (before ++ s :: after) =
      before.flatMap (· ++ sep) ++ (s ++ after.flatMap (sep ++ ·)) := by
  induction before with
  | nil =>
    rw [List.nil_append, List.flatMap_nil, List.nil_append]
    induction after generalizing s with
    | nil => simp [joinWith]
    | cons t after ih =>
      rw [joinWith, ih t, List.flatMap_cons, List.append_assoc, List.append_assoc]
      exact fun h => absurd h (List.cons_ne_nil t after)
  | cons t before ih =>
    rw [List.cons_append, joinWith, ih, List.flatMap_cons, List.append_assoc, List.append_assoc,
      List.append_assoc]
    exact fun h => absurd h (by simp)

namespace Shell

/-- A text inside quotes, with its own quotes protected. -/
def protect (s : List Char) : List Char :=
  s.flatMap fun c => if c = '\x27' then protectedQuote else [c]

@[simp] theorem protect_append (s t : List Char) : protect (s ++ t) = protect s ++ protect t :=
  List.flatMap_append

theorem protect_cons (c : Char) (s : List Char) :
    protect (c :: s) = (if c = '\x27' then protectedQuote else [c]) ++ protect s :=
  List.flatMap_cons

/-- A text without quotes needs no protection. -/
theorem protect_of_not_mem {s : List Char} (h : '\x27' ∉ s) : protect s = s := by
  induction s with
  | nil => rfl
  | cons c s ih =>
    rw [List.mem_cons, not_or] at h
    rw [protect_cons, if_neg (Ne.symm h.1), ih h.2, List.singleton_append]

/-- Protection takes no character away. -/
theorem length_le_length_protect (s : List Char) : s.length ≤ (protect s).length := by
  induction s with
  | nil => exact Nat.le_refl 0
  | cons c s ih =>
    have hchar : 1 ≤ (if c = '\x27' then protectedQuote else [c]).length := by
      split <;> simp [protectedQuote]
    rw [protect_cons, List.length_append, List.length_cons]
    omega

/-- A protected quote is four characters. -/
theorem length_add_three_le_length_protect {s : List Char} (h : '\x27' ∈ s) :
    s.length + 3 ≤ (protect s).length := by
  obtain ⟨before, after, rfl⟩ := List.append_of_mem h
  have hbefore := length_le_length_protect before
  have hafter := length_le_length_protect after
  have hquote : protectedQuote.length = 4 := rfl
  rw [protect_append, protect_cons, if_pos rfl, List.length_append, List.length_append,
    List.length_append, List.length_cons, hquote]
  omega

/-- The characters of a protected text are its own, quotes and backslashes. -/
theorem mem_of_mem_protect {c : Char} {s : List Char} (h : c ∈ protect s) :
    c ∈ s ∨ c ∈ protectedQuote := by
  obtain ⟨d, hd, hc⟩ := List.mem_flatMap.1 h
  split at hc
  · exact .inr hc
  · exact .inl (List.mem_singleton.1 hc ▸ hd)

/-- A word with a blank is printed between quotes. -/
theorem quoteWord_of_blank {word : List Char} (h : ' ' ∈ word) :
    quoteWord word = '\x27' :: protect word ++ ['\x27'] := by
  have hplain : (!word.isEmpty && word.all isPlain) = false := by
    rw [Bool.and_eq_false_iff]
    right
    rw [List.all_eq_false]
    exact ⟨' ', h, by decide⟩
  rw [quoteWord, hplain]
  rfl

/-- In a command line, a word stands between the words before and after it. -/
theorem joinWords_append_cons (before after : List (List Char)) (word : List Char) :
    joinWords (before ++ word :: after) =
      (before.map quoteWord).flatMap (· ++ [' ']) ++
        (quoteWord word ++ (after.map quoteWord).flatMap ([' '] ++ ·)) := by
  rw [joinWords, List.map_append, List.map_cons, Text.joinWith_append_cons]

end Shell

end ModelProbe
