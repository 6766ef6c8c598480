import ModelProbe.Toml.Document
import ModelProbe.Toml.Scalar
/-!
# Reading TOML

Version 1.1 of the format: an inline table may go over several lines and end with a comma, and
strings have the escapes `\x` and `\e`. Lists and inline tables may stand at most 80 levels deep.

* `Toml.ofChars?`: the members of a document's root.
-/

namespace ModelProbe.Toml

/-! ## Gaps, comments and keys -/

/-- The text without the gaps it begins with. -/
def skipGaps (s : List Char) : List Char := s.dropWhile isGap

/-- The text without the gaps, line breaks and comments it begins with; none when a comment holds
a character that it must not. -/
def skipLines? (inComment : Bool) : List Char → Option (List Char)
  | [] => some []
  | '\n' :: rest => skipLines? false rest
  | '\r' :: '\n' :: rest => skipLines? false rest
  | c :: rest =>
    if inComment then if isPlain c then skipLines? true rest else none
    else if isGap c then skipLines? false rest
    else if c = '#' then skipLines? true rest
    else some (c :: rest)

/-- Whether nothing but a comment stands before the end of the line. -/
def atLineEnd (s : List Char) : Bool :=
  match skipGaps s with
  | [] => true
  | '#' :: _ => true
  | s => (dropBreak? s).isSome

/-- Whether a name without quotes may have this character. -/
def isBareChar (c : Char) : Bool := c.isAlphanum || c == '_' || c == '-'

/-- Reads one name of a key. -/
def readName? : List Char → Option (String × List Char)
  | '"' :: '"' :: '"' :: _ => none
  | '\'' :: '\'' :: '\'' :: _ => none
  | '"' :: rest => (readBasic? rest).map fun (name, rest) => (String.ofList name, rest)
  | '\'' :: rest => (readLiteral? rest).map fun (name, rest) => (String.ofList name, rest)
  | s =>
    let name := s.takeWhile isBareChar
    if name.isEmpty then none else some (String.ofList name, s.dropWhile isBareChar)

/-- Reads the names of a key, with points between them: those before the last, and the last. -/
def readKey? : (fuel : Nat) → List Char → Option ((List String × String) × List Char)
  | 0, _ => none
  | fuel + 1, s => do
    let (name, rest) ← readName? (skipGaps s)
    match skipGaps rest with
    | '.' :: rest =>
      let ((path, last), rest) ← readKey? fuel rest
      return ((name :: path, last), rest)
    | rest => return (([], name), rest)

/-! ## Values -/

/-- What reads one value. -/
abbrev ValueReader := List Char → Option (Setting × List Char)

/-- Reads a pair of a key and a value. -/
def readPair? (value : ValueReader) (s : List Char) : Option (Pair × List Char) := do
  let ((path, name), rest) ← readKey? (s.length + 1) s
  let rest ← expect? '=' rest
  let (v, rest) ← value (skipGaps rest)
  return (⟨path, name, v⟩, rest)

/-- Reads what stands between brackets up to the closing one, with commas between the parts. -/
def readParts? {α : Type} (part : List Char → Option (α × List Char)) (close : Char) :
    (fuel : Nat) → List Char → Option (List α × List Char)
  | 0, _ => none
  | fuel + 1, s =>
    match skipLines? false s with
    | none => none
    | some [] => none
    | some (c :: rest) =>
      if c = close then some ([], rest)
      else
        match part (c :: rest) with
        | none => none
        | some (v, rest) =>
          match skipLines? false rest with
          | some (',' :: rest) =>
            (readParts? part close fuel rest).map fun (vs, rest) => (v :: vs, rest)
          | some (c :: rest) => if c = close then some ([v], rest) else none
          | _ => none

/-- Reads a value in which lists and inline tables stand at most `depth` levels deep. -/
def readValue? : (depth : Nat) → ValueReader
  | depth, s =>
    match s with
    | '"' :: _ => (readString? s).map fun (t, rest) => (.text (String.ofList t), rest)
    | '\'' :: _ => (readString? s).map fun (t, rest) => (.text (String.ofList t), rest)
    | '[' :: rest =>
      match depth with
      | 0 => none
      | depth + 1 =>
        (readParts? (readValue? depth) ']' (rest.length + 1) rest).map fun (vs, rest) =>
          (.list vs, rest)
    | '{' :: rest =>
      match depth with
      | 0 => none
      | depth + 1 =>
        match readParts? (readPair? (readValue? depth)) '}' (rest.length + 1) rest with
        | none => none
        | some (pairs, rest) => (inline? pairs).map fun ms => (.table ms, rest)
    | _ =>
      let (word, rest) := splitWord s
      (wordValue? word).map (·, rest)

/-- How many lists and inline tables may stand inside one another. -/
def maxDepth : Nat := 80

/-! ## Documents -/

/-- A line of a document. -/
inductive Line
  | header (h : Header)
  | pair (p : Pair)

/-- Reads a header after its first bracket. -/
def readHeader? (s : List Char) : Option (Header × List Char) :=
  match s with
  | '[' :: s =>
    match readKey? (s.length + 1) s with
    | some ((path, name), ']' :: ']' :: rest) => some (⟨path, name, true⟩, rest)
    | _ => none
  | s =>
    match readKey? (s.length + 1) s with
    | some ((path, name), ']' :: rest) => some (⟨path, name, false⟩, rest)
    | _ => none

/-- Reads a header or a pair, which must end its line. -/
def readLine? (s : List Char) : Option (Line × List Char) :=
  let line : Option (Line × List Char) := match s with
    | '[' :: rest => (readHeader? rest).map fun (h, rest) => (Line.header h, rest)
    | s => (readPair? (readValue? maxDepth) s).map fun (p, rest) => (Line.pair p, rest)
  line.filter fun (_, rest) => atLineEnd rest

/-- Reads the lines of a document. -/
def readLines? : (fuel : Nat) → List Char → Option (List Line)
  | 0, _ => none
  | fuel + 1, s =>
    match skipLines? false s with
    | none => none
    | some [] => some []
    | some s =>
      match readLine? s with
      | none => none
      | some (line, rest) => (readLines? fuel rest).map (line :: ·)

/-- The pairs before the first header, and each header with its pairs. -/
def sections : List Line → List Pair × List (Header × List Pair)
  | [] => ([], [])
  | .pair p :: lines => ((p :: (sections lines).1), (sections lines).2)
  | .header h :: lines => ([], (h, (sections lines).1) :: (sections lines).2)

/-- The text without the byte order mark that it may begin with. -/
def dropMark : List Char → List Char
  | '\ufeff' :: rest => rest
  | s => s

/-- The members of the root of a document. -/
def ofChars? (s : List Char) : Option (List (String × Setting)) := do
  let s := dropMark s
  let lines ← readLines? (s.length + 1) s
  let (first, rest) := sections lines
  ofSections? first rest

end ModelProbe.Toml
