/-!
# Blank characters

The white space characters of Unicode, trimming, and splitting a text into its words.

* `trimStart_eq_nil_iff`: trimming leaves nothing exactly when every character is blank.
-/

namespace ModelProbe.Text

/-- The characters with the Unicode property `White_Space`. -/
def isBlank (c : Char) : Bool :=
  let n := c.toNat
  (9 ≤ n && n ≤ 13) || n == 32 || n == 0x85 || n == 0xA0 || n == 0x1680 ||
    (0x2000 ≤ n && n ≤ 0x200A) || n == 0x2028 || n == 0x2029 || n == 0x202F || n == 0x205F ||
    n == 0x3000

/-- The text without the blanks it begins with. -/
def trimStart (s : List Char) : List Char :=
  s.dropWhile isBlank

/-- The text without the blanks it ends with. -/
def trimEnd (s : List Char) : List Char :=
  (s.reverse.dropWhile isBlank).reverse

/-- The text without the blanks at either end. -/
def trim (s : List Char) : List Char :=
  trimEnd (trimStart s)

/-- Whether the text has no character other than blanks. -/
def isBlankText (s : List Char) : Bool :=
  s.all isBlank

/-- The maximal runs of characters that are not blank. -/
def words (s : List Char) : List (List Char) :=
  go [] s
where
  /-- Reads on with `word`, in reverse, read so far. -/
  go (word : List Char) : List Char → List (List Char)
    | [] => if word.isEmpty then [] else [word.reverse]
    | c :: cs =>
      if isBlank c then
        if word.isEmpty then go [] cs else word.reverse :: go [] cs
      else go (c :: word) cs

/-! ## Trimming -/

@[simp] theorem trimStart_nil : trimStart [] = [] := rfl

theorem trimStart_eq_nil_iff (s : List Char) : trimStart s = [] ↔ isBlankText s = true := by
  induction s with
  | nil => simp [isBlankText]
  | cons c cs ih =>
    by_cases h : isBlank c <;> simp_all [trimStart, isBlankText]

theorem length_trimStart_le (s : List Char) : (trimStart s).length ≤ s.length :=
  (List.dropWhile_suffix isBlank).length_le

theorem length_trimEnd_le (s : List Char) : (trimEnd s).length ≤ s.length := by
  simpa [trimEnd] using (List.dropWhile_suffix (l := s.reverse) isBlank).length_le

/-- A text that does not begin with a blank is unchanged by `trimStart`. -/
theorem trimStart_cons {c : Char} (h : isBlank c = false) (s : List Char) :
    trimStart (c :: s) = c :: s := by
  simp [trimStart, h]

end ModelProbe.Text
