import ModelProbe.Proofs.Shell.Word
/-!
# Reading a command line back

A printed command line is split by the lexical rules of a shell into the words that it was made of:
bare words and quoted ones, and of the latter also those that leave their quotes for a quote of
their own.

* `splitFrom?_quoteWord`: a printed word is read back.
* `splitWords?_join`: a printed command line is read back.
-/

namespace ModelProbe.Shell

/-! ## One character -/

/-- A plain character has no meaning of its own to a shell. -/
theorem ne_of_isPlain {c : Char} (h : isPlain c = true) :
    c ≠ '\x27' ∧ c ≠ '\\' ∧ c ≠ ' ' ∧ c ≠ '\t' ∧ c ≠ '\n' := by
  refine ⟨?_, ?_, ?_, ?_, ?_⟩
  all_goals
    rintro rfl
    exact absurd h (by decide)

/-- Outside quotes, a plain character belongs to a bare word. -/
theorem splitFrom?_plain {place : Place} (hplace : place ≠ .quotes) (word : List Char) {c : Char}
    (hc : isPlain c = true) (rest : List Char) :
    splitFrom? place word (c :: rest) = splitFrom? .bare (c :: word) rest := by
  obtain ⟨hquote, hslash, hspace, htab, hline⟩ := ne_of_isPlain hc
  rw [splitFrom?.eq_def]
  cases place with
  | quotes => exact absurd rfl hplace
  | gap | bare => simp [hquote, hslash, hspace, htab, hline]

/-- Outside quotes, a quote opens them. -/
theorem splitFrom?_quote {place : Place} (hplace : place ≠ .quotes) (word rest : List Char) :
    splitFrom? place word ('\x27' :: rest) = splitFrom? .quotes word rest := by
  rw [splitFrom?.eq_def]
  cases place with
  | quotes => exact absurd rfl hplace
  | gap | bare => rfl

/-- Outside quotes, a backslash protects the next character. -/
theorem splitFrom?_backslash (word : List Char) (c : Char) (rest : List Char) :
    splitFrom? .bare word ('\\' :: c :: rest) = splitFrom? .bare (c :: word) rest := by
  rw [splitFrom?.eq_def]
  rfl

/-- Outside quotes, a space ends the word before it. -/
theorem splitFrom?_space (word rest : List Char) :
    splitFrom? .bare word (' ' :: rest) = (splitWords? rest).map (word.reverse :: ·) := by
  rw [splitFrom?.eq_def]
  rfl

/-- Between quotes, a quote closes them, and any other character belongs to the word. -/
theorem splitFrom?_quoted (word : List Char) (c : Char) (rest : List Char) :
    splitFrom? .quotes word (c :: rest) =
      if c = '\x27' then splitFrom? .bare word rest else splitFrom? .quotes (c :: word) rest := by
  rw [splitFrom?]

/-! ## One word -/

/-- Plain characters go on a bare word. -/
theorem splitFrom?_bare (word : List Char) {s : List Char} (hs : ∀ c ∈ s, isPlain c = true)
    (rest : List Char) :
    splitFrom? .bare word (s ++ rest) = splitFrom? .bare (s.reverse ++ word) rest := by
  induction s generalizing word with
  | nil => rfl
  | cons c s ih =>
    rw [List.cons_append, splitFrom?_plain (by decide) word (hs c List.mem_cons_self),
      ih _ fun d hd => hs d (List.mem_cons_of_mem c hd), List.reverse_cons, List.append_assoc,
      List.singleton_append]

/-- Between quotes everything goes on the word, up to the closing quote; a protected quote leads out
of the quotes and back. -/
theorem splitFrom?_quotes (word s rest : List Char) :
    splitFrom? .quotes word (protect s ++ '\x27' :: rest) =
      splitFrom? .bare (s.reverse ++ word) rest := by
  induction s generalizing word with
  | nil => exact splitFrom?_quoted word '\x27' rest
  | cons c s ih =>
    have hword : (c :: s).reverse ++ word = s.reverse ++ c :: word := by simp
    rw [hword, ← ih, protect_cons]
    by_cases hc : c = '\x27'
    · subst hc
      rw [if_pos rfl]
      calc splitFrom? .quotes word (protectedQuote ++ protect s ++ '\x27' :: rest)
          = splitFrom? .bare word ('\\' :: '\x27' :: '\x27' :: (protect s ++ '\x27' :: rest)) :=
            splitFrom?_quoted word '\x27' _
        _ = splitFrom? .bare ('\x27' :: word) ('\x27' :: (protect s ++ '\x27' :: rest)) :=
            splitFrom?_backslash word '\x27' _
        _ = splitFrom? .quotes ('\x27' :: word) (protect s ++ '\x27' :: rest) :=
            splitFrom?_quote (by decide) _ _
    · rw [if_neg hc, List.singleton_append, List.cons_append, splitFrom?_quoted, if_neg hc]

/-- **A printed word is read back**, up to where it ends. -/
theorem splitFrom?_quoteWord (word rest : List Char) :
    splitFrom? .gap [] (quoteWord word ++ rest) = splitFrom? .bare word.reverse rest := by
  rw [quoteWord]
  split
  · next hplain =>
    rw [Bool.and_eq_true, List.all_eq_true] at hplain
    obtain ⟨hne, hall⟩ := hplain
    cases word with
    | nil => cases hne
    | cons c word =>
      rw [List.cons_append, splitFrom?_plain (by decide) [] (hall c List.mem_cons_self),
        splitFrom?_bare _ fun d hd => hall d (List.mem_cons_of_mem c hd), List.reverse_cons]
  · show splitFrom? .gap [] ('\x27' :: protect word ++ ['\x27'] ++ rest) = _
    rw [List.append_assoc, List.cons_append, splitFrom?_quote (by decide), List.singleton_append,
      splitFrom?_quotes, List.append_nil]

/-! ## Command lines -/

/-- A printed row of words is read back. -/
theorem splitWords?_joinWords (words : List (List Char)) :
    splitWords? (joinWords words) = some words := by
  induction words with
  | nil => rfl
  | cons word words ih =>
    cases words with
    | nil =>
      have hword := splitFrom?_quoteWord word []
      rw [List.append_nil] at hword
      show splitFrom? .gap [] (quoteWord word) = _
      rw [hword, splitFrom?, List.reverse_reverse]
    | cons next words =>
      show splitFrom? .gap [] (quoteWord word ++ [' '] ++ joinWords (next :: words)) = _
      rw [List.append_assoc, splitFrom?_quoteWord, List.singleton_append, splitFrom?_space, ih,
        List.reverse_reverse]
      rfl

/-- **A printed command line is read back.** Splitting it by the lexical rules of a shell gives the
words that it was made of, so different rows of words are printed differently. -/
theorem splitWords?_join :
    (∀ words : List String, splitWords? (join words).toList = some (words.map String.toList)) ∧
      Function.Injective join := by
  have hsplit : ∀ words : List String,
      splitWords? (join words).toList = some (words.map String.toList) := fun words => by
    rw [join, String.toList_ofList, splitWords?_joinWords]
  refine ⟨hsplit, fun words others heq => ?_⟩
  have hchars : words.map String.toList = others.map String.toList := by
    rw [← Option.some.injEq, ← hsplit words, ← hsplit others, heq]
  exact (List.map_inj_right fun s t => String.toList_inj.1).1 hchars

-- A word that is left for its own quote, an empty word, and a bare one.
example : joinWords [['i', '\x27', 's'], [], ['a', '~']] =
    "'i'\\''s' '' a~".toList := by decide

end ModelProbe.Shell
