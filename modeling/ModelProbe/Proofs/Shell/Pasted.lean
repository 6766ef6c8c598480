import ModelProbe.Catalog.Entry
import ModelProbe.Proofs.Shell.Split
import ModelProbe.Request
import ModelProbe.Shell.Script
/-!
# Pasting a command line

To a shell a line is more than words: a character outside quotes may belong to a value, a pattern or
an operator, and some characters do so in some places only. Of all that a shell knows, and Bash
besides, a printed command line has two things. A tilde at the start of a bare word, or of a value
in one, stands for a home directory; and a bare first word is not always the name of a program.

* `words?_joinWords`: the words of a printed command line, and what stands outside quotes in them.
* `expand_printed_eq`: what one of these words stands for.
* `received?_join`: what a program receives from it, and when these are the printed arguments.
-/

namespace ModelProbe.Shell

/-! ## What a character is to a shell -/

/-- How a shell takes a character of a line. -/
inductive Role
  /-- Outside quotes. -/
  | bare
  /-- Quoted: it stands for itself. -/
  | kept
  /-- A quote or a backslash: it protects others and stands for nothing. -/
  | mark
  deriving DecidableEq, Repr

/-- A character of a line and how a shell takes it. -/
structure Glyph where
  char : Char
  role : Role
  deriving DecidableEq, Repr

/-- A character outside quotes. -/
def Glyph.bare (c : Char) : Glyph := ⟨c, .bare⟩

/-- Whether the character is outside quotes. -/
def Glyph.isBare (g : Glyph) : Bool := g.role = .bare

/-- Whether the character ends a word. -/
def Glyph.isBlank (g : Glyph) : Bool := g.isBare && isSpace g.char

/-- The characters of a line as a shell takes them, inside single quotes or outside quotes at its
start; none when a quote stays open. A backslash before the end of a line continues the line. -/
def glyphs? (quoted : Bool) : List Char → Option (List Glyph)
  | [] => if quoted then none else some []
  | c :: cs =>
    if quoted then
      if c = '\x27' then (glyphs? false cs).map (⟨c, .mark⟩ :: ·)
      else (glyphs? true cs).map (⟨c, .kept⟩ :: ·)
    else if c = '\x27' then (glyphs? true cs).map (⟨c, .mark⟩ :: ·)
    else if c = '\\' then
      match cs with
      | [] => none
      | d :: ds =>
        (glyphs? false ds).map (⟨c, .mark⟩ :: ⟨d, if d = '\n' then .mark else .kept⟩ :: ·)
    else (glyphs? false cs).map (.bare c :: ·)

/-- The words of a line, with their quotes. -/
def words? (line : List Char) : Option (List (List Glyph)) :=
  (glyphs? false line).map fun gs => (gs.splitOnP Glyph.isBlank).filter (!·.isEmpty)

/-- A word without its quotes. -/
def text (word : List Glyph) : List Char :=
  word.filterMap fun g => if g.role = .mark then none else some g.char

/-- The part of a word that comes before all quotes. -/
def bareStart (word : List Glyph) : List Char := (word.takeWhile Glyph.isBare).map Glyph.char

/-! ## What a shell makes of words -/

/-- The characters that may mean more than themselves wherever they stand outside quotes: in values,
patterns and alternatives, in comments and the history, as operators, as quotes, and at the end of
a command. -/
def isActive (c : Char) : Bool := "$\x60*?[]\x7b\x7d#!^|&;<>()\"\n".toList.contains c

/-- How many characters a text begins with that are a name and the sign that assigns to it. -/
def target? (s : List Char) : Option Nat :=
  let name := s.takeWhile inName
  if name.head?.any startsName then
    (["=".toList, "+=".toList].find? (·.isPrefixOf (s.drop name.length))).map
      (name.length + ·.length)
  else none

/-- The words that begin or go on a compound command when they come first. -/
def keywords : List (List Char) :=
  ["case", "coproc", "do", "done", "elif", "else", "esac", "fi", "for", "function", "if", "select",
    "then", "time", "until", "while"].map String.toList

/-- Whether a word that begins bare in this way assigns to a name, or is the name of a job. -/
def assigns (start : List Char) : Bool := (target? start).isSome || start.head? == some '%'

/-- Whether a shell takes the first word of a command for something else than the name of what it
runs. -/
def leads (word : List Glyph) : Bool :=
  assigns (bareStart word) || word.all Glyph.isBare && keywords.contains (bareStart word)

/-- What a tilde stands for depends on this. -/
structure Homes where
  /-- The home directory of a login name; one's own has the empty name. -/
  directory? : List Char → Option (List Char)
  /-- Whether the values in arguments such as `name=value` have tildes too, as in Bash. -/
  inValues : Bool

/-- The parts of a word each of which may begin with a tilde: the word, or the values in it between
colons. The parts in a row are the word. -/
def segments (inValues : Bool) (word : List Glyph) : List (List Glyph) :=
  match if inValues then target? (bareStart word) else none with
  | some length =>
    word.take length :: ((word.drop length).splitOn (.bare ':')).intersperse [.bare ':']
  | none => [word]

/-- A part of a word with the home directory in place of the tilde and the login name that it
begins with. -/
def expandTilde (homes : Homes) (segment : List Glyph) : List Char :=
  let login := segment.takeWhile (· != .bare '/')
  if login.head? = some (.bare '~') && login.all Glyph.isBare then
    match homes.directory? (text login.tail) with
    | some directory => directory ++ text (segment.drop login.length)
    | none => text segment
  else text segment

/-- What a word without active characters stands for. -/
def expand (homes : Homes) (word : List Glyph) : List Char :=
  (segments homes.inValues word).flatMap (expandTilde homes)

/-- The words that a program receives, its own name first, when a shell runs a line. None when the
line has an active character, or when its first word is not the name of a program. -/
def received? (homes : Homes) (line : List Char) : Option (List (List Char)) :=
  match words? line with
  | some words =>
    if words.any (·.any fun g => g.isBare && isActive g.char) || words.head?.any leads then none
    else some (words.map (expand homes))
  | none => none

/-! ## Printed words -/

/-- Whether the word is printed bare. -/
def isPlainWord (word : List Char) : Bool := !word.isEmpty && word.all isPlain

/-- A protected quote as a shell takes it: outside the quotes for as long as it takes. -/
def protectedGlyphs : List Glyph :=
  [⟨'\x27', .mark⟩, ⟨'\\', .mark⟩, ⟨'\x27', .kept⟩, ⟨'\x27', .mark⟩]

/-- The inside of a quoted word. -/
def keptGlyphs (s : List Char) : List Glyph :=
  s.flatMap fun c => if c = '\x27' then protectedGlyphs else [⟨c, .kept⟩]

/-- A word as a shell takes it when it is printed. -/
def printed (word : List Char) : List Glyph :=
  if isPlainWord word then word.map .bare
  else ⟨'\x27', .mark⟩ :: keptGlyphs word ++ [⟨'\x27', .mark⟩]

theorem printed_of_isPlainWord {word : List Char} (h : isPlainWord word = true) :
    printed word = word.map .bare := if_pos h

theorem isPlain_of_mem {word : List Char} (h : isPlainWord word = true) {c : Char} (hc : c ∈ word) :
    isPlain c = true :=
  List.all_eq_true.1 (Bool.and_eq_true_iff.1 h).2 c hc

theorem keptGlyphs_cons (c : Char) (s : List Char) :
    keptGlyphs (c :: s) =
      (if c = '\x27' then protectedGlyphs else [⟨c, .kept⟩]) ++ keptGlyphs s :=
  List.flatMap_cons

/-- Nothing in a quoted word is bare. -/
theorem isBare_of_mem_keptGlyphs {g : Glyph} {s : List Char} (h : g ∈ keptGlyphs s) :
    g.isBare = false := by
  obtain ⟨c, -, hg⟩ := List.mem_flatMap.1 h
  split at hg
  · have hquote : protectedGlyphs.all (fun g => !g.isBare) = true := by decide
    simpa using List.all_eq_true.1 hquote g hg
  · rw [List.mem_singleton.1 hg]
    rfl

/-- What is bare in a printed word is plain. -/
theorem isPlain_of_mem_printed {g : Glyph} {word : List Char} (h : g ∈ printed word)
    (hbare : g.isBare = true) : isPlain g.char = true := by
  rw [printed] at h
  split at h
  · next hplain =>
    obtain ⟨c, hc, rfl⟩ := List.mem_map.1 h
    exact isPlain_of_mem hplain hc
  · rw [List.cons_append, List.mem_cons, List.mem_append, List.mem_singleton] at h
    rcases h with rfl | h | rfl
    · cases hbare
    · rw [isBare_of_mem_keptGlyphs h] at hbare
      cases hbare
    · cases hbare

/-- A printed word has no blank outside quotes. -/
theorem isBlank_of_mem_printed {g : Glyph} {word : List Char} (h : g ∈ printed word) :
    g.isBlank = false := by
  rw [Glyph.isBlank, Bool.and_eq_false_imp]
  intro hbare
  obtain ⟨-, -, hspace, htab, -⟩ := ne_of_isPlain (isPlain_of_mem_printed h hbare)
  simp [isSpace, hspace, htab]

/-- A printed word is never nothing. -/
theorem printed_ne_nil (word : List Char) : printed word ≠ [] := by
  rw [printed]
  split
  · next hplain => simpa [isPlainWord] using (Bool.and_eq_true_iff.1 hplain).1
  · simp

theorem text_map_bare (s : List Char) : text (s.map .bare) = s := by
  simp [text, Glyph.bare, List.filterMap_map, Function.comp_def]

theorem text_append (v w : List Glyph) : text (v ++ w) = text v ++ text w := List.filterMap_append

theorem text_flatten (ws : List (List Glyph)) : text ws.flatten = ws.flatMap text :=
  List.filterMap_flatten

theorem text_keptGlyphs (s : List Char) : text (keptGlyphs s) = s := by
  induction s with
  | nil => rfl
  | cons c s ih =>
    rw [keptGlyphs_cons, text_append, ih]
    split
    · next hc => subst hc; rfl
    · rfl

/-- Without its quotes, a printed word is the word. -/
theorem text_printed (word : List Char) : text (printed word) = word := by
  rw [printed]
  split
  · exact text_map_bare word
  · rw [List.cons_append]
    show text (keptGlyphs word ++ [⟨'\x27', .mark⟩]) = word
    rw [text_append, text_keptGlyphs]
    exact List.append_nil word

/-! ## Reading a printed line -/

/-- Outside quotes, a character that is no quote and no backslash is bare. -/
theorem glyphs?_bare {c : Char} (hquote : c ≠ '\x27') (hslash : c ≠ '\\') (rest : List Char) :
    glyphs? false (c :: rest) = (glyphs? false rest).map (.bare c :: ·) := by
  rw [glyphs?.eq_def]
  simp [hquote, hslash]

/-- Outside quotes, a quote opens them. -/
theorem glyphs?_quote (rest : List Char) :
    glyphs? false ('\x27' :: rest) = (glyphs? true rest).map (⟨'\x27', .mark⟩ :: ·) := by
  rw [glyphs?.eq_def]
  rfl

/-- Outside quotes, a backslash keeps a quote after it. -/
theorem glyphs?_backslash (rest : List Char) :
    glyphs? false ('\\' :: '\x27' :: rest) =
      (glyphs? false rest).map (⟨'\\', .mark⟩ :: ⟨'\x27', .kept⟩ :: ·) := by
  rw [glyphs?.eq_def]
  rfl

/-- Between quotes, a quote closes them, and any other character is kept. -/
theorem glyphs?_quoted (c : Char) (rest : List Char) :
    glyphs? true (c :: rest) =
      if c = '\x27' then (glyphs? false rest).map (⟨c, .mark⟩ :: ·)
      else (glyphs? true rest).map (⟨c, .kept⟩ :: ·) := by
  rw [glyphs?.eq_def]
  rfl

/-- Plain characters are taken one by one. -/
theorem glyphs?_plain {s : List Char} (hs : ∀ c ∈ s, isPlain c = true) (rest : List Char) :
    glyphs? false (s ++ rest) = (glyphs? false rest).map (s.map .bare ++ ·) := by
  induction s with
  | nil => simp
  | cons c s ih =>
    obtain ⟨hquote, hslash, -⟩ := ne_of_isPlain (hs c List.mem_cons_self)
    rw [List.cons_append, glyphs?_bare hquote hslash,
      ih fun d hd => hs d (List.mem_cons_of_mem c hd), Option.map_map]
    rfl

/-- Between quotes everything is kept up to the closing quote, and a protected quote too. -/
theorem glyphs?_protect (s rest : List Char) :
    glyphs? true (protect s ++ '\x27' :: rest) =
      (glyphs? false rest).map (keptGlyphs s ++ ⟨'\x27', .mark⟩ :: ·) := by
  induction s with
  | nil => rw [protect, List.flatMap_nil, List.nil_append, glyphs?_quoted, if_pos rfl]; rfl
  | cons c s ih =>
    rw [protect_cons, keptGlyphs_cons]
    by_cases hc : c = '\x27'
    · subst hc
      rw [if_pos rfl, if_pos rfl]
      show glyphs? true ('\x27' :: '\\' :: '\x27' :: '\x27' :: (protect s ++ '\x27' :: rest)) = _
      rw [glyphs?_quoted, if_pos rfl, glyphs?_backslash, glyphs?_quote, ih, Option.map_map,
        Option.map_map, Option.map_map]
      rfl
    · rw [if_neg hc, if_neg hc, List.singleton_append, List.cons_append, glyphs?_quoted, if_neg hc,
        ih, Option.map_map]
      rfl

/-- **A printed word is taken as it was printed**, whatever comes after it. -/
theorem glyphs?_quoteWord (word rest : List Char) :
    glyphs? false (quoteWord word ++ rest) = (glyphs? false rest).map (printed word ++ ·) := by
  rw [quoteWord, printed, isPlainWord]
  split
  · next hplain => exact glyphs?_plain (fun c hc => isPlain_of_mem hplain hc) rest
  · show glyphs? false ('\x27' :: protect word ++ ['\x27'] ++ rest) = _
    rw [List.append_assoc, List.cons_append, glyphs?_quote, List.singleton_append, glyphs?_protect,
      Option.map_map]
    simp [Function.comp_def]

/-- A printed line is its printed words with bare spaces between them. -/
theorem glyphs?_joinWords (words : List (List Char)) :
    glyphs? false (joinWords words) = some ([.bare ' '].intercalate (words.map printed)) := by
  induction words with
  | nil => rfl
  | cons word words ih =>
    cases words with
    | nil =>
      have hword := glyphs?_quoteWord word []
      rw [List.append_nil] at hword
      show glyphs? false (quoteWord word) = _
      rw [hword]
      simp [glyphs?]
    | cons next words =>
      show glyphs? false (quoteWord word ++ [' '] ++ joinWords (next :: words)) = _
      rw [List.append_assoc, glyphs?_quoteWord, List.singleton_append,
        glyphs?_bare (by decide) (by decide), ih, List.map_cons, List.map_cons, List.map_cons,
        List.intercalate_cons_cons]
      simp

/-- Words without blanks are what is between the blanks of the line that they are joined to. -/
theorem splitOnP_intercalate {words : List (List Glyph)} (hne : words ≠ [])
    (hblank : ∀ w ∈ words, ∀ g ∈ w, g.isBlank = false) :
    ([.bare ' '].intercalate words).splitOnP Glyph.isBlank = words := by
  induction words with
  | nil => exact absurd rfl hne
  | cons word words ih =>
    have hword := hblank word List.mem_cons_self
    cases words with
    | nil => rw [List.intercalate_singleton, List.splitOnP_eq_singleton hword]
    | cons next words =>
      rw [List.intercalate_cons_cons, List.append_assoc, List.singleton_append,
        List.splitOnP_append_cons_of_forall_mem hword _ (by decide),
        ih (List.cons_ne_nil _ _) fun w hw => hblank w (List.mem_cons_of_mem _ hw)]

/-- **The words of a printed line are the printed words**, so outside quotes they have plain
characters only. -/
theorem words?_joinWords (words : List (List Char)) :
    words? (joinWords words) = some (words.map printed) := by
  rw [words?, glyphs?_joinWords, Option.map_some, Option.some.injEq]
  cases words with
  | nil => rfl
  | cons word words =>
    rw [splitOnP_intercalate (by simp) fun w hw => ?blank, List.filter_eq_self.2 fun w hw => ?full]
    case blank =>
      obtain ⟨s, -, rfl⟩ := List.mem_map.1 hw
      exact fun g hg => isBlank_of_mem_printed hg
    case full =>
      obtain ⟨s, -, rfl⟩ := List.mem_map.1 hw
      simpa using printed_ne_nil s

/-! ## First words -/

/-- Whether a printed word, as the first of a line, is not taken for the name of a program. -/
def isLeading (word : List Char) : Bool :=
  isPlainWord word && (assigns word || keywords.contains word)

theorem bareStart_map_bare (s : List Char) : bareStart (s.map .bare) = s := by
  have hall : ∀ g ∈ s.map Glyph.bare, g.isBare = true := by simp [Glyph.bare, Glyph.isBare]
  have htake : (s.map Glyph.bare).takeWhile Glyph.isBare = s.map Glyph.bare := by
    rw [← List.append_nil (s.map Glyph.bare), List.takeWhile_append_of_pos hall, List.takeWhile_nil]
  rw [bareStart, htake, List.map_map]
  exact List.map_id s

/-- A quoted word does not begin bare. -/
theorem bareStart_printed {word : List Char} (h : isPlainWord word = false) :
    bareStart (printed word) = [] := by
  rw [printed, h]
  rfl

/-- Only a bare word can be taken for something else than a name. -/
theorem leads_printed (word : List Char) : leads (printed word) = isLeading word := by
  rw [leads, isLeading]
  cases hplain : isPlainWord word with
  | true =>
    have hall : (word.map Glyph.bare).all Glyph.isBare = true := by simp [Glyph.bare, Glyph.isBare]
    rw [printed_of_isPlainWord hplain, bareStart_map_bare, hall]
    rfl
  | false =>
    rw [bareStart_printed hplain]
    simp [assigns, target?, keywords]

/-! ## Tildes -/

/-- The parts of a text that have a meaning of their own when they begin with a tilde. -/
def parts (s : List Char) : List (List Char) :=
  match target? s with
  | some length => (s.drop length).splitOn ':'
  | none => [s]

/-- Whether a printed word has a tilde that stands for a home directory. -/
def hasHome (word : List Char) : Bool :=
  isPlainWord word && (parts word).any (·.head? == some '~')

/-- What is assigned to is a name, and begins like one. -/
theorem startsName_of_target? {s : List Char} {length : Nat} (h : target? s = some length) :
    s.head?.any startsName = true := by
  rw [target?] at h
  split at h
  · next hname =>
    rw [List.head?_takeWhile] at hname
    cases hhead : s.head? with
    | none => simp [hhead] at hname
    | some c =>
      simp only [hhead, Option.filter] at hname
      split at hname
      · exact hname
      · cases hname
  · cases h

/-- A word that begins with a tilde assigns to nothing. -/
theorem target?_of_tilde {s : List Char} (h : s.head? = some '~') : target? s = none := by
  cases htarget : target? s with
  | none => rfl
  | some length =>
    have hname := startsName_of_target? htarget
    rw [h] at hname
    exact absurd hname (by decide)

/-- A segment is taken as it is unless it begins with a bare tilde. -/
theorem expandTilde_of_head? (homes : Homes) {segment : List Glyph}
    (h : segment.head? ≠ some (.bare '~')) : expandTilde homes segment = text segment := by
  rw [expandTilde, List.head?_takeWhile, if_neg]
  cases hhead : segment.head? with
  | none => simp
  | some g =>
    rw [hhead, ne_eq, Option.some.injEq] at h
    simp [Option.filter, h]

/-- The segments of a word in a row are the word. -/
theorem flatten_segments (inValues : Bool) (word : List Glyph) :
    (segments inValues word).flatten = word := by
  rw [segments]
  split
  · next length _ =>
    have hvalue : (((word.drop length).splitOn (.bare ':')).intersperse [.bare ':']).flatten =
        word.drop length :=
      List.intercalate_splitOn (Glyph.bare ':')
    rw [List.flatten_cons, hvalue, List.take_append_drop]
  · exact List.flatten_singleton

/-- A word with no tilde at the start of a segment is taken as it is. -/
theorem expand_eq_text {homes : Homes} {word : List Glyph}
    (h : ∀ segment ∈ segments homes.inValues word, segment.head? ≠ some (.bare '~')) :
    expand homes word = text word := by
  have hsegments : (segments homes.inValues word).map (expandTilde homes) =
      (segments homes.inValues word).map text :=
    List.map_congr_left fun segment hmem => expandTilde_of_head? homes (h segment hmem)
  calc expand homes word
      = ((segments homes.inValues word).map (expandTilde homes)).flatten := List.flatMap_def
    _ = (segments homes.inValues word).flatMap text := by rw [hsegments, List.flatMap_def]
    _ = text word := by rw [← text_flatten, flatten_segments]

/-- A bare text is split where the text is. -/
theorem splitOn_map_bare (c : Char) (s : List Char) :
    (s.map Glyph.bare).splitOn (.bare c) = (s.splitOn c).map (·.map .bare) := by
  induction s with
  | nil => rfl
  | cons d s ih =>
    have hbare : (Glyph.bare d == Glyph.bare c) = (d == c) := by
      rw [Bool.eq_iff_iff]
      simp [Glyph.bare]
    rw [List.map_cons, List.splitOn_cons_eq_if_modifyHead, List.splitOn_cons_eq_if_modifyHead, ih,
      hbare]
    split
    · rfl
    · cases s.splitOn c <;> rfl

/-- What is interspersed is still there. -/
theorem mem_intersperse {α : Type} {sep x : α} {l : List α} (h : x ∈ l) :
    x ∈ l.intersperse sep := by
  induction l with
  | nil => exact h
  | cons y l ih =>
    cases l with
    | nil => exact h
    | cons z l =>
      rw [List.intersperse_cons_cons]
      rcases List.mem_cons.1 h with rfl | h
      · exact List.mem_cons_self
      · exact List.mem_cons_of_mem _ (List.mem_cons_of_mem _ (ih h))

theorem eq_or_mem_of_mem_intersperse {α : Type} {sep x : α} {l : List α}
    (h : x ∈ l.intersperse sep) : x = sep ∨ x ∈ l := by
  induction l with
  | nil => exact .inr h
  | cons y l ih =>
    cases l with
    | nil => exact .inr h
    | cons z l =>
      rw [List.intersperse_cons_cons, List.mem_cons, List.mem_cons] at h
      rcases h with rfl | rfl | h
      · exact .inr List.mem_cons_self
      · exact .inl rfl
      · exact (ih h).imp_right (List.mem_cons_of_mem y)

theorem head?_map_bare_iff {s : List Char} {c : Char} :
    (s.map Glyph.bare).head? = some (.bare c) ↔ s.head? = some c := by
  simp [Glyph.bare]

/-- A word whose parts do not begin with a tilde has no segment that does. -/
theorem head?_of_mem_segments {word : List Char}
    (h : (parts word).any (·.head? == some '~') = false) {inValues : Bool} {segment : List Glyph}
    (hmem : segment ∈ segments inValues (word.map .bare)) :
    segment.head? ≠ some (.bare '~') := by
  have hparts : ∀ part ∈ parts word, part.head? ≠ some '~' := by simpa using h
  have hword : word.head? ≠ some '~' := fun hhead =>
    hparts word (by rw [parts, target?_of_tilde hhead]; exact List.mem_singleton_self word) hhead
  have hwhole : (word.map Glyph.bare).head? ≠ some (.bare '~') := fun hhead =>
    hword (head?_map_bare_iff.1 hhead)
  rw [segments, bareStart_map_bare] at hmem
  split at hmem
  · next length htarget =>
    have htarget : target? word = some length := by
      split at htarget
      · exact htarget
      · cases htarget
    rw [List.mem_cons] at hmem
    rcases hmem with rfl | hmem
    · rw [List.head?_take]
      split
      · simp
      · exact hwhole
    · rw [← List.map_drop, splitOn_map_bare] at hmem
      rcases eq_or_mem_of_mem_intersperse hmem with rfl | hmem
      · decide
      · obtain ⟨part, hpart, rfl⟩ := List.mem_map.1 hmem
        rw [ne_eq, head?_map_bare_iff]
        exact hparts part (by rw [parts, htarget]; exact hpart)
  · rw [List.mem_singleton.1 hmem]
    exact hwhole

/-- A part of a word is a segment of it, where the values in words have tildes. -/
theorem map_bare_mem_segments {word part : List Char} (h : part ∈ parts word) :
    part.map .bare ∈ segments true (word.map .bare) := by
  rw [segments, bareStart_map_bare, if_pos rfl]
  rw [parts] at h
  cases htarget : target? word with
  | none =>
    rw [htarget] at h
    rw [List.mem_singleton.1 h]
    exact List.mem_singleton_self _
  | some length =>
    rw [htarget] at h
    refine List.mem_cons_of_mem _ (mem_intersperse ?_)
    rw [← List.map_drop, splitOn_map_bare]
    exact List.mem_map_of_mem h

/-- Where every login name has the same home directory, a part that begins with a tilde gets it. -/
theorem mem_expandTilde {part : List Char} (hpart : part.head? = some '~') {directory : List Char}
    {c : Char} (hc : c ∈ directory) (inValues : Bool) :
    c ∈ expandTilde ⟨fun _ => some directory, inValues⟩ (part.map .bare) := by
  have hhead : ((part.map Glyph.bare).takeWhile (· != .bare '/')).head? = some (.bare '~') := by
    rw [List.head?_takeWhile, head?_map_bare_iff.2 hpart]
    decide
  have hall : ((part.map Glyph.bare).takeWhile (· != .bare '/')).all Glyph.isBare = true := by
    rw [List.all_eq_true]
    intro g hg
    obtain ⟨d, -, rfl⟩ := List.mem_map.1 ((List.takeWhile_sublist _).subset hg)
    rfl
  rw [expandTilde, if_pos (by rw [hhead, hall]; rfl)]
  exact List.mem_append_left _ hc

/-- A word that opens no home directory is received as it is. -/
theorem expand_printed {word : List Char} (h : hasHome word = false) (homes : Homes) :
    expand homes (printed word) = word := by
  rw [expand_eq_text, text_printed]
  intro segment hmem
  rw [hasHome, Bool.and_eq_false_imp] at h
  cases hplain : isPlainWord word with
  | true =>
    rw [printed_of_isPlainWord hplain] at hmem
    exact head?_of_mem_segments (h hplain) hmem
  | false =>
    have htarget : target? (bareStart (printed word)) = none := by
      rw [bareStart_printed hplain]
      rfl
    rw [segments, htarget, ite_self] at hmem
    rw [List.mem_singleton.1 hmem, printed, hplain]
    simp [Glyph.bare]

/-- What a printed word stands for. -/
theorem expand_printed_eq (homes : Homes) (word : List Char) :
    expand homes (printed word) =
      if hasHome word then expand homes (word.map .bare) else word := by
  split
  · next hhome => rw [printed_of_isPlainWord (Bool.and_eq_true_iff.1 hhome).1]
  · next hhome => exact expand_printed (by simpa using hhome) homes

/-- A word that opens a home directory is received otherwise, where that has a blank. -/
theorem expand_printed_ne {word : List Char} (h : hasHome word = true) :
    expand ⟨fun _ => some "/my home".toList, true⟩ (printed word) ≠ word := by
  rw [hasHome, Bool.and_eq_true, List.any_eq_true] at h
  obtain ⟨hplain, part, hpart, hhead⟩ := h
  intro heq
  have hblank : ' ' ∈ word := by
    rw [← heq, printed_of_isPlainWord hplain, expand]
    exact List.mem_flatMap.2 ⟨_, map_bare_mem_segments hpart,
      mem_expandTilde (eq_of_beq hhead) (by decide) true⟩
  exact absurd (isPlain_of_mem hplain hblank) (by decide)

/-! ## Lines -/

/-- A plain character is not active. -/
theorem isActive_of_isPlain {c : Char} (h : isPlain c = true) : isActive c = false := by
  rw [← Bool.not_eq_true]
  intro hactive
  have hplain : "$\x60*?[]\x7b\x7d#!^|&;<>()\"\n".toList.all (fun d => !isPlain d) = true := by
    decide
  have hc := List.all_eq_true.1 hplain c (List.contains_iff_mem.1 hactive)
  rw [h] at hc
  cases hc

/-- What is bare in a printed word is not active. -/
theorem isActive_of_mem_printed {g : Glyph} {word : List Char} (h : g ∈ printed word)
    (hbare : g.isBare = true) : isActive g.char = false :=
  isActive_of_isPlain (isPlain_of_mem_printed h hbare)

/-- What is received from a printed line. -/
theorem received?_joinWords (homes : Homes) (words : List (List Char)) :
    received? homes (joinWords words) =
      if words.head?.any isLeading then none
      else some (words.map fun word => expand homes (printed word)) := by
  have hactive :
      ((words.map printed).any (·.any fun g => g.isBare && isActive g.char)) = false := by
    simp only [List.any_eq_false, Bool.not_eq_true]
    intro w hw g hg
    obtain ⟨word, -, rfl⟩ := List.mem_map.1 hw
    rw [Bool.and_eq_false_imp]
    exact isActive_of_mem_printed hg
  have hlead : (words.map printed).head?.any leads = words.head?.any isLeading := by
    cases words with
    | nil => rfl
    | cons word words => exact leads_printed word
  rw [received?, words?_joinWords]
  simp only [hactive, hlead, Bool.false_or, List.map_map, Function.comp_def]

/-- **What a program receives from a pasted command line.** Splitting it gives the printed
arguments, and what stands outside quotes in them is active nowhere. When the first word names a
program, it receives every argument as it is, except for the tildes that stand for a home directory.
So the pasted line gives what it was printed from, wherever the homes are, exactly when its first
word names a program and no argument has such a tilde. -/
theorem received?_join (args : List String) :
    (∃ words, words? (join args).toList = some words ∧ words.map text = args.map String.toList ∧
      ∀ word ∈ words, ∀ g ∈ word, g.isBare = true → isActive g.char = false) ∧
    (∀ homes, received? homes (join args).toList =
      if args.head?.any (isLeading ·.toList) then none
      else some (args.map fun arg =>
        if hasHome arg.toList then expand homes (arg.toList.map .bare) else arg.toList)) ∧
    ((∀ homes, received? homes (join args).toList = some (args.map String.toList)) ↔
      args.head?.any (isLeading ·.toList) = false ∧ ∀ arg ∈ args, hasHome arg.toList = false) := by
  have hchars : (join args).toList = joinWords (args.map String.toList) := String.toList_ofList
  have hline : ∀ homes, received? homes (join args).toList =
      if args.head?.any (isLeading ·.toList) then none
      else some (args.map fun arg => expand homes (printed arg.toList)) := fun homes => by
    rw [hchars, received?_joinWords, List.head?_map, Option.any_map, List.map_map]
    rfl
  refine ⟨⟨_, by rw [hchars, words?_joinWords], ?_, fun word hword g hg hbare => ?_⟩,
    fun homes => ?_, fun hall => ?_, fun hname homes => ?_⟩
  · simp only [List.map_map, Function.comp_def, text_printed]
  · obtain ⟨arg, -, rfl⟩ := List.mem_map.1 hword
    exact isActive_of_mem_printed hg hbare
  · simp only [hline, expand_printed_eq]
  · -- A home directory with a blank is in no bare word.
    have hgiven := hall ⟨fun _ => some "/my home".toList, true⟩
    rw [hline] at hgiven
    split at hgiven
    · cases hgiven
    · next hfirst =>
      refine ⟨by simpa using hfirst, fun arg harg => ?_⟩
      rw [Option.some.injEq, List.map_inj_left] at hgiven
      rw [← Bool.not_eq_true]
      exact fun hhome => expand_printed_ne hhome (hgiven arg harg)
  · rw [hline homes, hname.1, if_neg (by decide), Option.some.injEq]
    exact List.map_congr_left fun arg harg => expand_printed (hname.2 arg harg) homes

/-- The command line of a request with the options of an entry that names a file in the home
directory. -/
def homeLine : List String :=
  Programs.commandLine {}
    { protocol := .grpc, header := "", body := "{}", endpoint := "s/m", target := "h:1"
      token := none, insecure := false
      args := Entry.transportArgs
        { endpoint := "s/m", header := "", body := "{}", args := some "proto=~/x.proto" } }

/-- Pasted, that command line names another file. -/
theorem received?_join_homeLine :
    received? ⟨fun _ => some "/root".toList, false⟩ (join homeLine).toList ≠
        some (homeLine.map String.toList) ∧
      received? ⟨fun _ => some "/root".toList, false⟩ (join homeLine).toList =
        some (["grpcurl", "-d", "{}", "-proto", "/root/x.proto", "h:1", "s/m"].map
          String.toList) := by
  decide +kernel

end ModelProbe.Shell
