import Mathlib.Tactic.SplitIfs
import ModelProbe.Proofs.Toml.Document
import ModelProbe.Toml.Reader
/-!
# TOML texts as they are written

A document is written line by line, with all names and texts in double quotes: the header of a
table, and then an assignment for each of its members. What is assigned is a text, or a table of
texts on one line. Reading gives the lines back, whatever characters the names and texts have.

* `readBasic?_flatMap_basicChar`: a written string is read back.
* `readKey?_keyChars`, `readValue?_chars`: so are keys and values.
* `readLines?_text`: so are all lines.
* `ofChars?_document`: a document is read as its sections, put together.
-/

namespace ModelProbe.Toml

/-! ## Writing -/

/-- A character between double quotes: as itself, with a backslash before it, or by its code
point. -/
def basicChar (c : Char) : List Char :=
  if c = '"' ∨ c = '\\' then ['\\', c]
  else if isPlain c then [c]
  else ['\\', 'u', '0', '0', Nat.digitChar (c.toNat / 16), Nat.digitChar (c.toNat % 16)]

/-- A string in double quotes. -/
def basic (s : String) : List Char := '"' :: (s.toList.flatMap basicChar ++ ['"'])

/-- The names of a key with points between them. -/
def keyChars : List String → String → List Char
  | [], name => basic name
  | first :: path, name => basic first ++ '.' :: keyChars path name

/-- A name and what is assigned to it. -/
def assigned (name : String) (value : List Char) : List Char :=
  basic name ++ ' ' :: '=' :: ' ' :: value

/-- Pairs of a name and a text, with commas between them. -/
def pairChars : List (String × String) → List Char
  | [] => []
  | [e] => assigned e.1 (basic e.2)
  | e :: entries => assigned e.1 (basic e.2) ++ ',' :: ' ' :: pairChars entries

/-- The characters of a value. -/
def Written.chars : Written → List Char
  | text s => basic s
  | fields m => '{' :: (pairChars m.toList ++ ['}'])

/-- A line of a document as it is written. -/
inductive WrittenLine
  | header (path : List String) (name : String)
  | assignment (name : String) (value : Written)

namespace WrittenLine

/-- The characters of a line. -/
def chars : WrittenLine → List Char
  | header path name => '[' :: (keyChars path name ++ [']'])
  | assignment name value => assigned name value.chars

/-- The line that is written. -/
def line : WrittenLine → Line
  | header path name => .header ⟨path, name, false⟩
  | assignment name value => .pair ⟨[], name, value.toSetting⟩

/-- The characters of lines, each with a line break behind it. -/
def text (lines : List WrittenLine) : List Char :=
  lines.flatMap fun l => l.chars ++ ['\n']

theorem text_cons (l : WrittenLine) (lines : List WrittenLine) :
    text (l :: lines) = l.chars ++ '\n' :: text lines := by
  rw [text, List.flatMap_cons, List.append_assoc, List.singleton_append, ← text]

/-- There are at least as many characters as lines. -/
theorem length_le_text (lines : List WrittenLine) : lines.length ≤ (text lines).length := by
  induction lines with
  | nil => exact Nat.zero_le _
  | cons l lines ih =>
    rw [text_cons, List.length_cons, List.length_append, List.length_cons]
    omega

end WrittenLine

/-- The lines of a section. -/
def Section.lines (s : Section) : List WrittenLine :=
  .header s.path s.name :: s.assignments.toList.map fun e => .assignment e.1 e.2

/-- The characters of a document. -/
def document (ss : List Section) : List Char := WrittenLine.text (ss.flatMap Section.lines)

/-! ## Strings -/

/-- The digits of a character that is written by its code point are those of its code point. -/
theorem digits_notPlain : ∀ n < 128,
    Text.hexValue ['0', '0', Nat.digitChar (n / 16), Nat.digitChar (n % 16)] = n ∧
      ['0', '0', Nat.digitChar (n / 16), Nat.digitChar (n % 16)].all
        (fun d => (Text.hexDigit? d).isSome) = true := by
  decide

/-- The escape of a character by its code point is read back. -/
theorem readEscape?_notPlain {c : Char} (hc : isPlain c = false) (s : List Char) :
    readEscape? ('u' :: '0' :: '0' :: Nat.digitChar (c.toNat / 16) ::
      Nat.digitChar (c.toNat % 16) :: s) = some (c, s) := by
  have hlow : c.toNat < 128 := by
    simp [isPlain] at hc
    omega
  obtain ⟨hvalue, hdigits⟩ := digits_notPlain c.toNat hlow
  have hvalid : c.toNat.isValidChar := .inl (by omega)
  rw [readEscape?, Text.readCode?]
  simp only [List.take_succ_cons, List.take_zero, hvalue, hdigits, List.drop_succ_cons,
    List.drop_zero, List.length_cons, List.length_nil, hvalid, decide_true, Bool.and_self,
    if_true, Char.ofNat_toNat]

/-- A written character is read back. -/
theorem readBasic?_basicChar_append (c : Char) (s : List Char) :
    readBasic? (basicChar c ++ s) = (readBasic? s).map fun (t, rest) => (c :: t, rest) := by
  -- Both kinds of escapes are read by their character.
  have hescape : ∀ d digits, readEscape? (d :: (digits ++ s)) = some (c, s) →
      readBasic? ('\\' :: d :: (digits ++ s)) =
        (readBasic? s).map fun (t, rest) => (c :: t, rest) := by
    intro d digits hread
    rw [readBasic?, if_neg (by decide), if_pos rfl]
    split
    · next hnone => rw [hread] at hnone; cases hnone
    · next e rest hsome =>
      rw [hread, Option.some.injEq, Prod.mk.injEq] at hsome
      obtain ⟨rfl, rfl⟩ := hsome
      rfl
  unfold basicChar
  split_ifs with hmark hplain
  · refine hescape c [] ?_
    rcases hmark with rfl | rfl <;> rfl
  · rw [List.singleton_append, readBasic?, if_neg fun h => hmark (.inl h),
      if_neg fun h => hmark (.inr h), if_pos hplain]
  · exact hescape 'u' ['0', '0', Nat.digitChar (c.toNat / 16), Nat.digitChar (c.toNat % 16)]
      (readEscape?_notPlain (by simpa using hplain) s)

/-- **A written string is read back**, whatever follows it. -/
theorem readBasic?_flatMap_basicChar (s rest : List Char) :
    readBasic? (s.flatMap basicChar ++ '"' :: rest) = some (s, rest) := by
  induction s with
  | nil => rw [List.flatMap_nil, List.nil_append, readBasic?, if_pos rfl]
  | cons c s ih =>
    rw [List.flatMap_cons, List.append_assoc, readBasic?_basicChar_append, ih]
    rfl

/-- No written character begins with a double quote. -/
theorem head?_basicChar_append (c : Char) (s : List Char) :
    (basicChar c ++ s).head? ≠ some '"' := by
  unfold basicChar
  split_ifs with hmark hplain
  · simp
  · simpa using fun h : c = '"' => hmark (.inl h)
  · simp

/-- A written string does not begin with three quotes, unless another one follows an empty one. -/
theorem not_threeQuotes {s : String} {rest : List Char} (hrest : rest.head? ≠ some '"') :
    ∀ tail, s.toList.flatMap basicChar ++ '"' :: rest ≠ '"' :: '"' :: tail := by
  intro tail h
  cases hs : s.toList with
  | nil =>
    rw [hs, List.flatMap_nil, List.nil_append] at h
    exact hrest (by rw [(List.cons.inj h).2]; rfl)
  | cons c cs =>
    rw [hs, List.flatMap_cons, List.append_assoc] at h
    exact head?_basicChar_append c _ (by rw [h]; rfl)

section

variable {rest : List Char} (hrest : rest.head? ≠ some '"')

include hrest

/-- A written string is a quote and what is read as the string, and does not begin with three
quotes. -/
theorem exists_basic_append (s : String) : ∃ inner, basic s ++ rest = '"' :: inner ∧
    readBasic? inner = some (s.toList, rest) ∧ ∀ tail, inner ≠ '"' :: '"' :: tail := by
  refine ⟨s.toList.flatMap basicChar ++ '"' :: rest, ?_, readBasic?_flatMap_basicChar _ _,
    not_threeQuotes hrest⟩
  rw [basic, List.cons_append, List.append_assoc, List.singleton_append]

/-- A written text is read as a text. -/
theorem readString?_basic (s : String) :
    readString? (basic s ++ rest) = some (s.toList, rest) := by
  obtain ⟨inner, hinner, hread, hthree⟩ := exists_basic_append hrest s
  rw [hinner, readString?, hread]
  exact hthree

/-- A written name is read as a name. -/
theorem readName?_basic (s : String) : readName? (basic s ++ rest) = some (s, rest) := by
  obtain ⟨inner, hinner, hread, hthree⟩ := exists_basic_append hrest s
  rw [hinner, readName?, hread]
  · simp
  · exact hthree

end

/-! ## Keys and pairs -/

/-- A written key begins with a quote. -/
theorem keyChars_append_eq_cons (path : List String) (name : String) (rest : List Char) :
    ∃ tail, keyChars path name ++ rest = '"' :: tail := by
  cases path <;> exact ⟨_, rfl⟩

/-- **A written key is read back**, up to what follows it and its gap. -/
theorem readKey?_keyChars {path : List String} {name : String} {rest : List Char}
    (hrest : rest.head? ≠ some '"') (hpoint : (skipGaps rest).head? ≠ some '.') :
    ∀ {fuel : Nat}, path.length < fuel →
      readKey? fuel (keyChars path name ++ rest) = some ((path, name), skipGaps rest) := by
  induction path with
  | nil =>
    intro fuel hfuel
    obtain ⟨fuel, rfl⟩ := Nat.exists_eq_add_one_of_ne_zero (Nat.ne_of_gt hfuel)
    have hread : readName? (skipGaps (basic name ++ rest)) = some (name, rest) :=
      readName?_basic hrest name
    simp only [readKey?, keyChars, hread, Option.bind_eq_bind, Option.bind_some]
    split
    · next h => rw [h] at hpoint; exact absurd rfl hpoint
    · rfl
  | cons first path ih =>
    intro fuel hfuel
    obtain ⟨fuel, rfl⟩ := Nat.exists_eq_add_one_of_ne_zero (Nat.ne_of_gt (Nat.zero_lt_of_lt hfuel))
    have hread : readName? (skipGaps (keyChars (first :: path) name ++ rest)) =
        some (first, '.' :: (keyChars path name ++ rest)) := by
      rw [keyChars, List.append_assoc, List.cons_append]
      exact readName?_basic (by simp) first
    have hpath : readKey? fuel (keyChars path name ++ rest) = some ((path, name), skipGaps rest) :=
      ih (Nat.lt_of_succ_lt_succ hfuel)
    simp only [readKey?, hread, Option.bind_eq_bind, Option.bind_some]
    show ((readKey? fuel (keyChars path name ++ rest)).bind fun found =>
      some ((first :: found.1.1, found.1.2), found.2)) = _
    rw [hpath]
    rfl

/-- **A written pair is read back**, when its value is. -/
theorem readPair?_assigned {reader : ValueReader} {v : Setting} {value rest : List Char}
    (name : String) (hgap : skipGaps (value ++ rest) = value ++ rest)
    (hread : reader (value ++ rest) = some (v, rest)) :
    readPair? reader (assigned name value ++ rest) = some (⟨[], name, v⟩, rest) := by
  have hkey : readKey? ((assigned name value ++ rest).length + 1) (assigned name value ++ rest) =
      some (([], name), '=' :: ' ' :: (value ++ rest)) := by
    rw [assigned, List.append_assoc]
    show readKey? _ (keyChars [] name ++ _) = _
    exact readKey?_keyChars (by simp) (by simp [skipGaps, isGap]) (by simp)
  have hequals : expect? '=' ('=' :: ' ' :: (value ++ rest)) = some (' ' :: (value ++ rest)) := rfl
  have hskip : skipGaps (' ' :: (value ++ rest)) = value ++ rest := hgap
  simp only [readPair?, hkey, hequals, hskip, hread, Option.bind_eq_bind, Option.bind_some]
  rfl

/-! ## Values -/

/-- A written text is the value that it writes. -/
theorem readValue?_basic {rest : List Char} (hrest : rest.head? ≠ some '"') (depth : Nat)
    (s : String) : readValue? depth (basic s ++ rest) = some (.text s, rest) := by
  have hread := readString?_basic hrest s
  rw [basic, List.cons_append] at hread ⊢
  rw [readValue?, hread]
  simp

/-- There are at least as many characters as pairs. -/
theorem length_le_pairChars (entries : List (String × String)) :
    entries.length ≤ (pairChars entries).length := by
  induction entries using pairChars.induct with
  | case1 => simp
  | case2 e => simp [pairChars, assigned, basic]
  | case3 e entries hne ih =>
    rw [pairChars, List.length_append, List.length_cons, List.length_cons, List.length_cons]
    · omega
    · exact hne

/-- Nothing stands before pairs and a closing bracket that would be passed over. -/
theorem skipLines?_pairs (entries : List (String × String)) (rest : List Char) :
    skipLines? false (pairChars entries ++ '}' :: rest) =
      some (pairChars entries ++ '}' :: rest) := by
  match entries with
  | [] => rfl
  | [_] => rfl
  | _ :: _ :: _ => rfl

/-- A part with a comma behind it is read before the other parts. -/
theorem readParts?_comma {α : Type} {part : List Char → Option (α × List Char)} {close c : Char}
    {fuel : Nat} {s tail rest : List Char} {v : α} (hskip : skipLines? false s = some (c :: tail))
    (hclose : c ≠ close) (hpart : part (c :: tail) = some (v, ',' :: rest)) :
    readParts? part close (fuel + 1) s =
      (readParts? part close fuel rest).map fun (vs, rest) => (v :: vs, rest) := by
  have hcomma : skipLines? false (',' :: rest) = some (',' :: rest) := rfl
  simp only [readParts?, hskip, if_neg hclose, hpart, hcomma]

/-- A part with the closing bracket behind it is the last one. -/
theorem readParts?_close {α : Type} {part : List Char → Option (α × List Char)} {c : Char}
    {fuel : Nat} {s tail rest : List Char} {v : α} (hskip : skipLines? false s = some (c :: tail))
    (hclose : c ≠ '}') (hpart : part (c :: tail) = some (v, '}' :: rest)) :
    readParts? part '}' (fuel + 1) s = some ([v], rest) := by
  have hbracket : skipLines? false ('}' :: rest) = some ('}' :: rest) := rfl
  simp only [readParts?, hskip, if_neg hclose, hpart, hbracket]
  rfl

/-- No gap stands before a value. -/
theorem skipGaps_chars_append (w : Written) (rest : List Char) :
    skipGaps (w.chars ++ rest) = w.chars ++ rest := by
  cases w <;> rfl

/-- **Written pairs are read back**, up to the closing bracket. -/
theorem readParts?_pairChars (depth : Nat) (rest : List Char) (entries : List (String × String)) :
    ∀ {fuel : Nat} {s : List Char}, entries.length < fuel →
      skipLines? false s = some (pairChars entries ++ '}' :: rest) →
      readParts? (readPair? (readValue? depth)) '}' fuel s =
        some (entries.map fun e => ⟨[], e.1, .text e.2⟩, rest) := by
  -- One pair is read with whatever follows it, but for a quote.
  have hpair : ∀ (e : String × String) {rest : List Char}, rest.head? ≠ some '"' →
      readPair? (readValue? depth) (assigned e.1 (basic e.2) ++ rest) =
        some (⟨[], e.1, .text e.2⟩, rest) := fun e _ hrest =>
    readPair?_assigned e.1 rfl (readValue?_basic hrest depth e.2)
  induction entries using pairChars.induct with
  | case1 =>
    intro fuel s hfuel hskip
    obtain ⟨fuel, rfl⟩ := Nat.exists_eq_add_one_of_ne_zero (Nat.ne_of_gt hfuel)
    have hskip' : skipLines? false s = some ('}' :: rest) := hskip
    simp only [readParts?, hskip', if_true, List.map_nil]
  | case2 e =>
    intro fuel s hfuel hskip
    obtain ⟨fuel, rfl⟩ := Nat.exists_eq_add_one_of_ne_zero (Nat.ne_of_gt (Nat.zero_lt_of_lt hfuel))
    exact readParts?_close hskip (by decide) (hpair e (by simp))
  | case3 e entries hne ih =>
    intro fuel s hfuel hskip
    obtain ⟨fuel, rfl⟩ := Nat.exists_eq_add_one_of_ne_zero (Nat.ne_of_gt (Nat.zero_lt_of_lt hfuel))
    rw [pairChars, List.append_assoc, List.cons_append, List.cons_append] at hskip
    · -- The gap behind the comma is passed over.
      have hgap : skipLines? false (' ' :: (pairChars entries ++ '}' :: rest)) =
          some (pairChars entries ++ '}' :: rest) := skipLines?_pairs entries rest
      rw [readParts?_comma hskip (by decide) (hpair e (by simp)),
        ih (Nat.lt_of_succ_lt_succ hfuel) hgap]
      rfl
    · exact hne

/-- **A written value is read back.** -/
theorem readValue?_chars {rest : List Char} (hrest : rest.head? ≠ some '"') (depth : Nat)
    (w : Written) : readValue? (depth + 1) (w.chars ++ rest) = some (w.toSetting, rest) := by
  cases w with
  | text s => exact readValue?_basic hrest (depth + 1) s
  | fields m =>
    have hchars : (Written.fields m).chars ++ rest = '{' :: (pairChars m.toList ++ '}' :: rest) := by
      rw [Written.chars, List.cons_append, List.append_assoc, List.singleton_append]
    have hlength : m.toList.length < (pairChars m.toList ++ '}' :: rest).length + 1 := by
      have hpairs := length_le_pairChars m.toList
      rw [List.length_append]
      omega
    have hparts := readParts?_pairChars depth rest m.toList hlength (skipLines?_pairs m.toList rest)
    rw [hchars, readValue?, hparts]
    simp only [inline?_map, Option.map_some]
    rfl

/-! ## Lines -/

/-- There are more characters than names before the last one. -/
theorem length_lt_keyChars (path : List String) (name : String) :
    path.length < (keyChars path name).length := by
  induction path with
  | nil => simp [keyChars, basic]
  | cons first path ih =>
    rw [keyChars, List.length_append, List.length_cons, List.length_cons]
    omega

/-- A written header is read back. -/
theorem readHeader?_keyChars (path : List String) (name : String) (rest : List Char) :
    readHeader? (keyChars path name ++ ']' :: rest) = some (⟨path, name, false⟩, rest) := by
  have hkey : readKey? ((keyChars path name ++ ']' :: rest).length + 1)
      (keyChars path name ++ ']' :: rest) = some ((path, name), ']' :: rest) := by
    refine readKey?_keyChars (by simp) (by simp [skipGaps, isGap]) ?_
    have hlength := length_lt_keyChars path name
    rw [List.length_append]
    omega
  obtain ⟨tail, hquote⟩ := keyChars_append_eq_cons path name (']' :: rest)
  rw [hquote] at hkey ⊢
  -- What begins with a quote does not begin with a second bracket.
  rw [readHeader?, hkey]
  · rfl
  · intro s hbracket
    exact absurd (List.cons.inj hbracket).1 (by decide)

/-- Nothing stands before lines that would be passed over. -/
theorem skipLines?_text (lines : List WrittenLine) :
    skipLines? false (WrittenLine.text lines) = some (WrittenLine.text lines) := by
  match lines with
  | [] => rfl
  | .header _ _ :: _ => rfl
  | .assignment _ _ :: _ => rfl

/-- What begins with a quote is read as a pair. -/
theorem readLine?_quote (s : List Char) : readLine? ('"' :: s) =
    ((readPair? (readValue? maxDepth) ('"' :: s)).map fun found =>
      (Line.pair found.1, found.2)).filter fun found => atLineEnd found.2 := rfl

/-- **A written line is read back.** -/
theorem readLine?_chars (l : WrittenLine) (rest : List Char) :
    readLine? (l.chars ++ '\n' :: rest) = some (l.line, '\n' :: rest) := by
  cases l with
  | header path name =>
    have hchars : (WrittenLine.header path name).chars ++ '\n' :: rest =
        '[' :: (keyChars path name ++ ']' :: '\n' :: rest) := by
      rw [WrittenLine.chars, List.cons_append, List.append_assoc, List.singleton_append]
    rw [hchars]
    simp only [readLine?, readHeader?_keyChars]
    rfl
  | assignment name value =>
    have hpair : readPair? (readValue? maxDepth) (assigned name value.chars ++ '\n' :: rest) =
        some (⟨[], name, value.toSetting⟩, '\n' :: rest) :=
      readPair?_assigned name (skipGaps_chars_append value _) (readValue?_chars (by simp) 79 value)
    obtain ⟨tail, hquote⟩ : ∃ tail, assigned name value.chars ++ '\n' :: rest = '"' :: tail :=
      ⟨_, rfl⟩
    rw [WrittenLine.chars]
    rw [hquote] at hpair ⊢
    exact (readLine?_quote tail).trans (by rw [hpair]; rfl)

/-- **Written lines are read back.** -/
theorem readLines?_text (lines : List WrittenLine) :
    ∀ {fuel : Nat} {s : List Char}, lines.length < fuel →
      skipLines? false s = some (WrittenLine.text lines) →
      readLines? fuel s = some (lines.map WrittenLine.line) := by
  induction lines with
  | nil =>
    intro fuel s hfuel hskip
    obtain ⟨fuel, rfl⟩ := Nat.exists_eq_add_one_of_ne_zero (Nat.ne_of_gt hfuel)
    rw [readLines?, hskip]
    rfl
  | cons l lines ih =>
    intro fuel s hfuel hskip
    obtain ⟨fuel, rfl⟩ := Nat.exists_eq_add_one_of_ne_zero (Nat.ne_of_gt (Nat.zero_lt_of_lt hfuel))
    have hrest : readLines? fuel ('\n' :: WrittenLine.text lines) =
        some (lines.map WrittenLine.line) :=
      ih (Nat.lt_of_succ_lt_succ hfuel) (skipLines?_text lines)
    -- The line's own break is left over and is passed over before the next line.
    have hline := readLine?_chars l (WrittenLine.text lines)
    rw [WrittenLine.text_cons] at hskip
    obtain ⟨c, tail, hcons⟩ := List.exists_cons_of_ne_nil
      (l := l.chars ++ '\n' :: WrittenLine.text lines) (by simp)
    rw [hcons] at hskip hline
    simp only [readLines?, hskip, hline, hrest]
    rfl

/-! ## Documents -/

/-- The lines of sections are taken apart into the sections. -/
theorem sections_lines (ss : List Section) :
    sections ((ss.flatMap Section.lines).map WrittenLine.line) =
      ([], ss.map fun s => (s.header, s.pairs)) := by
  -- Pairs belong to the section that is read.
  have hpairs : ∀ (entries : List (String × Written)) (lines : List Line),
      sections ((entries.map fun e => (WrittenLine.assignment e.1 e.2).line) ++ lines) =
        ((entries.map fun e => ⟨[], e.1, e.2.toSetting⟩) ++ (sections lines).1,
          (sections lines).2) := by
    intro entries lines
    induction entries with
    | nil => rfl
    | cons e entries ih =>
      rw [List.map_cons, List.cons_append, WrittenLine.line, sections, ih]
      rfl
  induction ss with
  | nil => rfl
  | cons s ss ih =>
    have hlines : (s.lines ++ ss.flatMap Section.lines).map WrittenLine.line =
        .header s.header :: ((s.assignments.toList.map fun e =>
          (WrittenLine.assignment e.1 e.2).line) ++
            (ss.flatMap Section.lines).map WrittenLine.line) := by
      rw [List.map_append, Section.lines, List.map_cons, List.map_map, List.cons_append]
      rfl
    rw [List.flatMap_cons, hlines, sections, hpairs, ih, List.append_nil]
    rfl

/-- **A document is read as its sections, put together.** -/
theorem ofChars?_document (ss : List Section) :
    ofChars? (document ss) = (addAll? ss []).map membersToSettings := by
  have hmark : dropMark (document ss) = document ss := by
    cases ss <;> rfl
  have hlength : (ss.flatMap Section.lines).length < (document ss).length + 1 :=
    Nat.lt_succ_of_le (WrittenLine.length_le_text _)
  have hlines := readLines?_text (ss.flatMap Section.lines) hlength (skipLines?_text _)
  simp only [ofChars?, hmark, Option.bind_eq_bind]
  rw [document] at hlines ⊢
  rw [hlines, Option.bind_some, sections_lines]
  rfl

end ModelProbe.Toml
