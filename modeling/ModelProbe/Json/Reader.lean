import ModelProbe.Json.Number
import ModelProbe.Text.CodeRanges
/-!
# Reading JSON

A reader takes a text and returns a value with the rest of the text. At most 127 arrays and
objects may stand inside one another. A text may hold one value with blanks around it, or a row
of values.
-/

namespace ModelProbe.Json

/-- The blanks of JSON. -/
def isSpace (c : Char) : Bool :=
  c == ' ' || c == '\n' || c == '\t' || c == '\r'

/-- The text without the blanks it begins with. -/
def skipSpace (s : List Char) : List Char := s.dropWhile isSpace

/-! ## Strings -/

/-- The number that four hexadecimal digits write. -/
def hexUnit? (a b c d : Char) : Option Nat := do
  let a ← Text.hexDigit? a
  let b ← Text.hexDigit? b
  let c ← Text.hexDigit? c
  let d ← Text.hexDigit? d
  return a * 4096 + b * 256 + c * 16 + d

/-- The character that a backslash and this letter stand for. -/
def simpleEscape? : Char → Option Char
  | '"' => some '"'
  | '\\' => some '\\'
  | '/' => some '/'
  | 'b' => some '\x08'
  | 'f' => some '\x0c'
  | 'n' => some '\n'
  | 'r' => some '\r'
  | 't' => some '\t'
  | _ => none

/-- Reads an escape after its backslash. A character beyond the first plane is written as a pair
of surrogates; a surrogate alone is refused. -/
def readEscape? : List Char → Option (Char × List Char)
  | 'u' :: a :: b :: c :: d :: rest =>
    match hexUnit? a b c d with
    | none => none
    | some unit =>
      if 0xDC00 ≤ unit ∧ unit ≤ 0xDFFF then none
      else if 0xD800 ≤ unit ∧ unit ≤ 0xDBFF then
        match rest with
        | '\\' :: 'u' :: a :: b :: c :: d :: rest =>
          match hexUnit? a b c d with
          | none => none
          | some low =>
            if 0xDC00 ≤ low ∧ low ≤ 0xDFFF then
              some (Char.ofNat (0x10000 + (unit - 0xD800) * 1024 + (low - 0xDC00)), rest)
            else none
        | _ => none
      else some (Char.ofNat unit, rest)
  | 'u' :: _ => none
  | c :: rest => (simpleEscape? c).map (·, rest)
  | [] => none

theorem length_readEscape? {s rest : List Char} {c : Char} (h : readEscape? s = some (c, rest)) :
    rest.length < s.length := by
  unfold readEscape? at h
  split at h
  · split at h
    · simp at h
    · split at h
      · simp at h
      · split at h
        · split at h
          · split at h
            · simp at h
            · split at h
              · simp at h; simp [← h.2]; omega
              · simp at h
          · simp at h
        · simp at h; simp [← h.2]; omega
  · simp at h
  · next c' rest' _ _ =>
    simp only [Option.map_eq_some_iff, Prod.mk.injEq] at h
    obtain ⟨_, _, _, rfl⟩ := h
    simp
  · simp at h

/-- Reads the characters of a string after its opening quote. -/
def readString? : List Char → Option (List Char × List Char)
  | [] => none
  | c :: cs =>
    if c = '"' then some ([], cs)
    else if c = '\\' then
      match _h : readEscape? cs with
      | none => none
      | some (e, rest) => (readString? rest).map fun (s, rest) => (e :: s, rest)
    else if c.toNat < 32 then none
    else (readString? cs).map fun (s, rest) => (c :: s, rest)
termination_by s => s.length
decreasing_by
  · have := length_readEscape? ‹_›
    simp only [List.length_cons]; omega
  · simp

/-! ## Values -/

/-- What reads one value. -/
abbrev ItemReader := List Char → Option (Json × List Char)

/-- Reads the items of an array that has at least one, and its bracket. -/
def readItems? (item : ItemReader) : (fuel : Nat) → List Char → Option (List Json × List Char)
  | 0, _ => none
  | fuel + 1, s =>
    match item s with
    | none => none
    | some (v, rest) =>
      match skipSpace rest with
      | ',' :: more => (readItems? item fuel more).map fun (vs, rest) => (v :: vs, rest)
      | ']' :: more => some ([v], more)
      | _ => none

/-- Reads a member's name with its quotes and the colon. -/
def readName? (s : List Char) : Option (String × List Char) :=
  match skipSpace s with
  | '"' :: rest =>
    match readString? rest with
    | none => none
    | some (name, rest) =>
      match skipSpace rest with
      | ':' :: rest => some (String.ofList name, rest)
      | _ => none
  | _ => none

/-- Reads the members of an object that has at least one, and its brace. -/
def readMembers? (item : ItemReader) :
    (fuel : Nat) → List Char → Option (List (String × Json) × List Char)
  | 0, _ => none
  | fuel + 1, s =>
    match readName? s with
    | none => none
    | some (name, rest) =>
      match item rest with
      | none => none
      | some (v, rest) =>
        match skipSpace rest with
        | ',' :: more =>
          (readMembers? item fuel more).map fun (ms, rest) => ((name, v) :: ms, rest)
        | '}' :: more => some ([(name, v)], more)
        | _ => none

/-- Reads a value, after blanks, in which at most `depth` arrays and objects stand inside one
another. -/
def readValue? : (depth : Nat) → ItemReader
  | depth, s =>
    match skipSpace s with
    | 'n' :: 'u' :: 'l' :: 'l' :: rest => some (null, rest)
    | 't' :: 'r' :: 'u' :: 'e' :: rest => some (bool true, rest)
    | 'f' :: 'a' :: 'l' :: 's' :: 'e' :: rest => some (bool false, rest)
    | '"' :: rest => (readString? rest).map fun (s, rest) => (string (String.ofList s), rest)
    | '[' :: rest =>
      match depth with
      | 0 => none
      | depth + 1 =>
        match skipSpace rest with
        | ']' :: rest => some (array [], rest)
        | _ =>
          (readItems? (readValue? depth) (rest.length + 1) rest).map fun (vs, rest) =>
            (array vs, rest)
    | '{' :: rest =>
      match depth with
      | 0 => none
      | depth + 1 =>
        match skipSpace rest with
        | '}' :: rest => some (object [], rest)
        | _ =>
          (readMembers? (readValue? depth) (rest.length + 1) rest).map fun (ms, rest) =>
            (ofMembers ms, rest)
    | s => (JsonNumber.read? s).map fun (n, rest) => (number n, rest)

/-- The number of arrays and objects that may stand inside one another. -/
def maxDepth : Nat := 127

/-- The value of a text that holds one value and blanks. -/
def ofChars? (s : List Char) : Option Json :=
  match readValue? maxDepth s with
  | some (v, rest) => if (skipSpace rest).isEmpty then some v else none
  | none => none

/-- The value of a text that holds one value and blanks. -/
def ofText? (s : String) : Option Json := ofChars? s.toList

/-! ## Rows of values -/

/-- Whether a value that is no string, array or object may be followed by this text. -/
def mayFollow : List Char → Bool
  | [] => true
  | c :: _ => isSpace c || "\"[]\x7b\x7d,:".toList.contains c

/-- The values that a text begins with, one after another, up to what is no value. -/
def readRow : (fuel : Nat) → List Char → List Json
  | 0, _ => []
  | fuel + 1, s =>
    let s := skipSpace s
    match readValue? maxDepth s with
    | none => []
    | some (v, rest) =>
      let closed := s.head?.any fun c => c == '"' || c == '[' || c == '\x7b'
      if closed || mayFollow rest then v :: readRow fuel rest else []

/-- The values that a text begins with. -/
def rowOfChars (s : List Char) : List Json := readRow (s.length + 1) s

end ModelProbe.Json
