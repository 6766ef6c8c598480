import ModelProbe.Answer
import ModelProbe.Proofs.Text.Trimming
/-!
# Response heads as they are written

A head is written as a status line and header lines, each with its line end, and an empty line
after them. The heads of one output need not have the same line ends. Reading takes the heads
apart again, whatever payload follows them.

* `splitHead_chars`: one head is read back.
* `readHeads_printed`: all heads are read back, and what is left is the payload.
-/

namespace ModelProbe

/-! ## Writing -/

/-- How the lines of a head end. -/
inductive LineEnd
  | crlf
  | lf
  deriving DecidableEq, Repr

/-- The characters that end a line. -/
def LineEnd.chars : LineEnd → List Char
  | crlf => ['\r', '\n']
  | lf => ['\n']

/-- A text without line breaks. -/
def OnOneLine (s : List Char) : Prop := ∀ c ∈ s, c ≠ '\r' ∧ c ≠ '\n'

instance (s : List Char) : Decidable (OnOneLine s) :=
  List.decidableBAll (fun c => c ≠ '\r' ∧ c ≠ '\n') s

/-- A header with a name and a value that can be told apart on one line. -/
structure HeaderLine where
  name : String
  value : String
  name_ne : name ≠ "" := by decide
  name_trimmed : Text.trim name.toList = name.toList := by decide
  name_no_colon : ':' ∉ name.toList := by decide
  name_line : OnOneLine name.toList := by decide
  value_trimmed : Text.trim value.toList = value.toList := by decide
  value_line : OnOneLine value.toList := by decide

/-- A response head: the version and the status of its first line, and its headers. -/
structure Head where
  version : String
  status : String
  headers : List HeaderLine
  lineEnd : LineEnd
  version_mark : Answer.headMark <+: version.toList := by decide
  version_solid : Text.Solid version.toList := by decide
  status_trimmed : Text.trim status.toList = status.toList := by decide
  status_line : OnOneLine status.toList := by decide

/-- The line of a header. -/
def HeaderLine.chars (l : HeaderLine) : List Char := l.name.toList ++ ':' :: ' ' :: l.value.toList

namespace Head

/-- The first line of a head. -/
def statusLine (h : Head) : List Char := h.version.toList ++ ' ' :: h.status.toList

/-- The lines of a head. -/
def lines (h : Head) : List (List Char) := h.statusLine :: h.headers.map HeaderLine.chars

/-- A head as it is written: every line with its end, and an empty line. -/
def chars (h : Head) : List Char :=
  h.lines.flatMap (fun line => line ++ h.lineEnd.chars) ++ h.lineEnd.chars

/-- What a head stands for, line by line: the status under the version, each value under its
name. -/
def entries (h : Head) : List (String × Json) :=
  (h.version, .string h.status) :: h.headers.map fun l => (l.name, .string l.value)

/-- The names under which a head leaves something: its version and those of its headers. -/
def names (h : Head) : List String := h.entries.map Prod.fst

end Head

/-- An output: the heads one after another, and the payload. -/
def printed (heads : List Head) (payload : String) : String :=
  String.ofList (heads.flatMap Head.chars ++ payload.toList)

namespace Answer

/-- The characters of an output. -/
theorem toList_printed (heads : List Head) (payload : String) :
    (printed heads payload).toList = heads.flatMap Head.chars ++ payload.toList := by
  simp [printed]

/-- An answer keeps the output that it was read from. -/
theorem raw_ofText (raw : String) : (ofText raw).raw = raw := by
  rw [ofText]
  dsimp only
  split <;> rfl

/-! ## Splitting a head from what follows -/

/-- A piece of a line stays in the head that it begins. -/
theorem splitHead_append {l : List Char} (hl : OnOneLine l) (s : List Char) :
    splitHead (l ++ s) = (l ++ (splitHead s).1, (splitHead s).2) := by
  induction l with
  | nil => rfl
  | cons c l ih =>
    have hc := hl c (by simp)
    rw [List.cons_append, splitHead, ih fun d hd => hl d (List.mem_cons_of_mem c hd)]
    · rfl
    · exact fun _ h => absurd h hc.1
    · exact fun _ h => absurd h hc.2

/-- A line end in front of a line stays in the head. -/
theorem splitHead_lineEnd (e : LineEnd) {c : Char} (hc : c ≠ '\r' ∧ c ≠ '\n') (s : List Char) :
    splitHead (e.chars ++ c :: s) =
      (e.chars ++ (splitHead (c :: s)).1, (splitHead (c :: s)).2) := by
  have hlf : splitHead ('\n' :: c :: s) =
      ('\n' :: (splitHead (c :: s)).1, (splitHead (c :: s)).2) := by
    rw [splitHead]
    · exact fun _ h => absurd h (by decide)
    · exact fun _ _ h => absurd (List.cons.inj h).1 hc.2
  cases e with
  | crlf =>
    rw [LineEnd.chars, List.cons_append, splitHead]
    · rw [List.singleton_append, hlf]
      rfl
    · intro _ _ h
      exact absurd (List.cons.inj (List.cons.inj h).2).1 hc.1
    · exact fun _ h => absurd h (by decide)
  | lf => exact hlf

/-- The head ends before an empty line. -/
theorem splitHead_empty_line (e : LineEnd) (s : List Char) :
    splitHead (e.chars ++ (e.chars ++ s)) = ([], s) := by
  cases e <;> rfl

/-- The head is all lines up to the empty line. -/
theorem splitHead_lines (e : LineEnd) (lines : List (List Char))
    (hlines : ∀ l ∈ lines, OnOneLine l ∧ l ≠ []) (rest : List Char) :
    splitHead (lines.flatMap (fun l => e.chars ++ l) ++ (e.chars ++ (e.chars ++ rest))) =
      (lines.flatMap (fun l => e.chars ++ l), rest) := by
  induction lines with
  | nil => exact splitHead_empty_line e rest
  | cons l lines ih =>
    obtain ⟨hl, hne⟩ := hlines l (by simp)
    obtain ⟨c, l', rfl⟩ := List.exists_cons_of_ne_nil hne
    have hrest := ih fun l h => hlines l (List.mem_cons_of_mem _ h)
    rw [List.flatMap_cons, List.append_assoc, List.append_assoc, List.cons_append,
      splitHead_lineEnd e (hl c (by simp)), ← List.cons_append, splitHead_append hl, hrest,
      List.append_assoc]

/-! ## Reading the lines of a head -/

/-- Trimmed at their ends, the pieces between line feeds are the trimmed lines. -/
theorem map_trimEnd_splitOn (e : LineEnd) (lines : List (List Char))
    (hlines : ∀ l ∈ lines, OnOneLine l) :
    ∀ {first : List Char}, OnOneLine first →
      (Text.splitOn '\n' (first ++ lines.flatMap fun l => e.chars ++ l)).map Text.trimEnd =
        (first :: lines).map Text.trimEnd := by
  induction lines with
  | nil =>
    intro first hfirst
    rw [List.flatMap_nil, List.append_nil,
      Text.splitOn_of_not_mem fun h => (hfirst _ h).2 rfl]
  | cons l lines ih =>
    intro first hfirst
    have hrest := ih (fun l h => hlines l (List.mem_cons_of_mem _ h)) (hlines l (by simp))
    have hno : '\n' ∉ first := fun h => (hfirst _ h).2 rfl
    cases e with
    | crlf =>
      have hno' : '\n' ∉ first ++ ['\r'] := by simp [hno]
      have hsplit := Text.splitOn_append hno'
        (l ++ lines.flatMap fun l => LineEnd.crlf.chars ++ l)
      have hjoin : first ++ (l :: lines).flatMap (fun l => LineEnd.crlf.chars ++ l) =
          first ++ ['\r'] ++ '\n' :: (l ++ lines.flatMap fun l => LineEnd.crlf.chars ++ l) := by
        simp [LineEnd.chars]
      rw [hjoin, hsplit, List.map_cons, hrest, Text.trimEnd_append_of_blank first (by decide)]
      rfl
    | lf =>
      have hsplit := Text.splitOn_append hno (l ++ lines.flatMap fun l => LineEnd.lf.chars ++ l)
      have hjoin : first ++ (l :: lines).flatMap (fun l => LineEnd.lf.chars ++ l) =
          first ++ '\n' :: (l ++ lines.flatMap fun l => LineEnd.lf.chars ++ l) := by
        simp [LineEnd.chars]
      rw [hjoin, hsplit, List.map_cons, hrest]
      rfl

/-- A status line is read back. -/
theorem readStatusLine_statusLine (h : Head) :
    readStatusLine (Text.trimEnd h.statusLine) = (h.version, .string h.status) := by
  have hspace : ' ' ∉ h.version.toList := fun hmem => absurd (h.version_solid _ hmem) (by decide)
  rw [Head.statusLine, Text.trimEnd_append]
  by_cases hstatus : h.status.toList = []
  · -- The blank after the version is trimmed as well.
    have hblank : Text.trimEnd (' ' :: h.status.toList) = [] := by rw [hstatus]; decide
    rw [hblank, if_pos List.isEmpty_nil, Text.trimEnd_of_solid h.version_solid, readStatusLine,
      Text.splitFirst?_eq_none_iff.2 hspace]
    simp [String.toList_eq_nil_iff.1 hstatus]
  · have hend : Text.trimEnd (' ' :: h.status.toList) = ' ' :: h.status.toList := by
      rw [← List.singleton_append, Text.trimEnd_append, Text.trimEnd_of_trim_eq h.status_trimmed,
        if_neg (by simpa using hstatus)]
    rw [hend, if_neg (by simp), readStatusLine, Text.splitFirst?_append hspace]
    simp [h.status_trimmed]

/-- A header line is read back. -/
theorem readHeaderLine?_chars (l : HeaderLine) :
    readHeaderLine? (Text.trimEnd l.chars) = some (l.name, .string l.value) := by
  have hname : String.ofList (Text.trim l.name.toList) = l.name := by simp [l.name_trimmed]
  have hcolon : Text.trimEnd (':' :: ' ' :: l.value.toList) =
      ':' :: Text.trimEnd (' ' :: l.value.toList) := by
    rw [← List.singleton_append, Text.trimEnd_append]
    split
    · next hempty => rw [List.isEmpty_iff.1 hempty]; decide
    · rfl
  have hvalue : Text.trim (Text.trimEnd (' ' :: l.value.toList)) = l.value.toList := by
    rw [← List.singleton_append, Text.trimEnd_append, Text.trimEnd_of_trim_eq l.value_trimmed]
    split
    · next hempty => rw [List.isEmpty_iff.1 hempty]; decide
    · rw [Text.trim_append_of_blank_left (by decide), l.value_trimmed]
  rw [HeaderLine.chars, Text.trimEnd_append, hcolon, if_neg (by simp), readHeaderLine?,
    Text.splitFirst?_append l.name_no_colon, Option.map_some]
  dsimp only
  rw [hname, hvalue, String.ofList_toList]

/-- The line of a header is one line and not empty. -/
theorem onOneLine_chars (l : HeaderLine) : OnOneLine l.chars ∧ l.chars ≠ [] := by
  refine ⟨fun c hc => ?_, by simp [HeaderLine.chars]⟩
  simp only [HeaderLine.chars, List.mem_append, List.mem_cons] at hc
  rcases hc with hc | rfl | rfl | hc
  · exact l.name_line c hc
  · decide
  · decide
  · exact l.value_line c hc

/-- The first line of a head is one line. -/
theorem onOneLine_statusLine (h : Head) : OnOneLine h.statusLine := by
  intro c hc
  rw [Head.statusLine, List.mem_append, List.mem_cons] at hc
  rcases hc with hc | rfl | hc
  · have hsolid := h.version_solid c hc
    exact ⟨by rintro rfl; exact absurd hsolid (by decide),
      by rintro rfl; exact absurd hsolid (by decide)⟩
  · decide
  · exact h.status_line c hc

/-! ## Reading heads -/

/-- The lines and the empty line of a head, with the line ends between them. -/
theorem lines_joined (e : List Char) (lines : List (List Char)) :
    ∀ first : List Char, (first :: lines).flatMap (fun l => l ++ e) ++ e =
      first ++ (lines.flatMap (fun l => e ++ l) ++ (e ++ e)) := by
  induction lines with
  | nil => intro first; simp
  | cons l lines ih =>
    intro first
    rw [List.flatMap_cons, List.append_assoc, ih l]
    simp

/-- **A head is read back.** What is split off is the head, and its entries are those that it
stands for. -/
theorem splitHead_chars (h : Head) (rest : List Char) :
    ∃ head, splitHead (h.chars ++ rest) = (head, rest) ∧ readHead head = h.entries := by
  have hlines : ∀ l ∈ h.headers.map HeaderLine.chars, OnOneLine l ∧ l ≠ [] := by
    intro l hl
    obtain ⟨header, -, rfl⟩ := List.mem_map.1 hl
    exact onOneLine_chars header
  refine ⟨h.statusLine ++ (h.headers.map HeaderLine.chars).flatMap fun l => h.lineEnd.chars ++ l,
    ?_, ?_⟩
  · rw [Head.chars, Head.lines, lines_joined, List.append_assoc,
      splitHead_append (onOneLine_statusLine h), List.append_assoc, List.append_assoc,
      splitHead_lines h.lineEnd _ hlines]
  · rw [readHead, map_trimEnd_splitOn h.lineEnd _ (fun l hl => (hlines l hl).1)
      (onOneLine_statusLine h), List.map_cons]
    dsimp only
    rw [readStatusLine_statusLine, Head.entries, List.map_map, List.filterMap_map]
    have hheaders : readHeaderLine? ∘ Text.trimEnd ∘ HeaderLine.chars =
        some ∘ fun l => (l.name, Json.string l.value) := by
      funext l
      exact readHeaderLine?_chars l
    rw [hheaders, List.filterMap_eq_map]

/-- A written head begins with a head's mark. -/
theorem headMark_prefix_chars (h : Head) (rest : List Char) : headMark <+: h.chars ++ rest := by
  refine h.version_mark.trans ?_
  rw [Head.chars, Head.lines, lines_joined, Head.statusLine, List.append_assoc, List.append_assoc]
  exact List.prefix_append _ _

/-- A text that begins with a head's mark begins with no blank. -/
theorem trimStart_of_mark {s : List Char} (hs : headMark <+: s) : Text.trimStart s = s := by
  obtain ⟨more, rfl⟩ := hs
  exact Text.trimStart_cons (by decide) _

/-- Reading takes one head off a text that begins with a head's mark. -/
theorem readHeads_of_mark {s head rest : List Char} (hs : headMark <+: s)
    (hsplit : splitHead s = (head, rest)) :
    readHeads s =
      (readHead head ++ (readHeads (Text.trimStart rest)).1,
        (readHeads (Text.trimStart rest)).2) := by
  obtain ⟨more, rfl⟩ := hs
  have hmark : OnOneLine headMark := by decide
  rw [splitHead_append hmark, Prod.mk.injEq] at hsplit
  obtain ⟨rfl, rfl⟩ := hsplit
  rw [headMark, List.cons_append, List.cons_append, List.cons_append, List.cons_append,
    List.cons_append, List.nil_append, readHeads]
  rfl

/-- A text without a head's mark is all payload. -/
theorem readHeads_of_not_mark {s : List Char} (hs : ¬ headMark <+: s) : readHeads s = ([], s) := by
  rw [readHeads]
  rintro rest rfl
  exact hs ⟨rest, rfl⟩

/-- **Heads are read back.** Reading an output finds what its heads stand for, in order, and
leaves its payload. -/
theorem readHeads_printed (heads : List Head) {payload : List Char}
    (hpayload : ¬ headMark <+: Text.trimStart payload) :
    readHeads (Text.trimStart (heads.flatMap Head.chars ++ payload)) =
      (heads.flatMap Head.entries, Text.trimStart payload) := by
  induction heads with
  | nil => exact readHeads_of_not_mark hpayload
  | cons h heads ih =>
    have hmark := headMark_prefix_chars h (heads.flatMap Head.chars ++ payload)
    obtain ⟨head, hsplit, hread⟩ := splitHead_chars h (heads.flatMap Head.chars ++ payload)
    rw [List.flatMap_cons, List.append_assoc, trimStart_of_mark hmark,
      readHeads_of_mark hmark hsplit, ih, hread]
    rfl

end Answer

end ModelProbe
