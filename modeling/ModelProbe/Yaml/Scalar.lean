import ModelProbe.Number.Decimal
import ModelProbe.Setting
import ModelProbe.Text.CodeRanges
/-!
# YAML values on one line

Scalars with and without quotes, and lists and tables in brackets. A scalar without quotes is a
number, a truth value or nothing when it looks like one, and a text otherwise.
-/

namespace ModelProbe.Yaml

/-- Whether the character is a space or a tab. -/
def isGap (c : Char) : Bool := c == ' ' || c == '\t'

/-- The text without the gaps it begins with. -/
def skipGaps (s : List Char) : List Char := s.dropWhile isGap

/-! ## Quoted scalars -/

/-- Reads a scalar in single quotes, after the first one; two quotes stand for one. -/
def readSingle? : List Char → Option (List Char × List Char)
  | '\'' :: '\'' :: rest => (readSingle? rest).map fun (s, rest) => ('\'' :: s, rest)
  | '\'' :: rest => some ([], rest)
  | c :: rest => (readSingle? rest).map fun (s, rest) => (c :: s, rest)
  | [] => none

/-- The code point of an escape of one letter. -/
def letterEscape? : Char → Option Nat
  | '0' => some 0
  | 'a' => some 7
  | 'b' => some 8
  | 't' => some 9
  | '\t' => some 9
  | 'n' => some 10
  | 'v' => some 11
  | 'f' => some 12
  | 'r' => some 13
  | 'e' => some 27
  | ' ' => some 32
  | '"' => some 34
  | '/' => some 47
  | '\\' => some 92
  | 'N' => some 0x85
  | '_' => some 0xA0
  | 'L' => some 0x2028
  | 'P' => some 0x2029
  | _ => none

/-- The number of hexadecimal digits after an escape's letter. -/
def codeDigits? : Char → Option Nat
  | 'x' => some 2
  | 'u' => some 4
  | 'U' => some 8
  | _ => none

/-- Reads an escape after its backslash. -/
def readEscape? : List Char → Option (Char × List Char)
  | [] => none
  | c :: rest =>
    match codeDigits? c with
    | none => (letterEscape? c).map fun n => (Char.ofNat n, rest)
    | some count => Text.readCode? count rest

theorem length_readEscape? {s rest : List Char} {c : Char} (h : readEscape? s = some (c, rest)) :
    rest.length < s.length := by
  unfold readEscape? at h
  split at h
  · simp at h
  · split at h
    · simp only [Option.map_eq_some_iff, Prod.mk.injEq] at h
      obtain ⟨_, _, _, rfl⟩ := h
      simp
    · have := Text.length_readCode?_le h
      simp; omega

/-- Reads a scalar in double quotes, after the first one. -/
def readDouble? : List Char → Option (List Char × List Char)
  | [] => none
  | c :: cs =>
    if c = '"' then some ([], cs)
    else if c = '\\' then
      match _h : readEscape? cs with
      | none => none
      | some (e, rest) => (readDouble? rest).map fun (s, rest) => (e :: s, rest)
    else (readDouble? cs).map fun (s, rest) => (c :: s, rest)
termination_by s => s.length
decreasing_by
  · have := length_readEscape? ‹_›
    simp only [List.length_cons]; omega
  · simp

/-! ## Plain scalars -/

/-- The characters that separate values in brackets. -/
def isFlowMark (c : Char) : Bool :=
  c == ',' || c == '[' || c == ']' || c == '{' || c == '}'

/-- Whether a colon before this text ends a key. -/
def endsKey (inFlow : Bool) : List Char → Bool
  | [] => true
  | c :: _ => isGap c || (inFlow && isFlowMark c)

/-- The characters of a plain scalar, up to a colon that ends a key, a comment or, in brackets, a
mark; `afterGap` says whether the character before was a gap. -/
def takePlain (inFlow afterGap : Bool) : List Char → List Char
  | [] => []
  | c :: cs =>
    if c = ':' && endsKey inFlow cs then []
    else if c = '#' && afterGap then []
    else if inFlow && isFlowMark c then []
    else c :: takePlain inFlow (isGap c) cs

/-- Whether a plain scalar may begin with this text. -/
def mayBegin : List Char → Bool
  | [] => false
  | c :: cs =>
    if c == '-' || c == '?' || c == ':' then !(endsKey false cs)
    else !("!&*|>%@\x60#\"',[]\x7b\x7d".toList.contains c)

/-- Reads a whole number in a base after its mark. -/
def readInBase? (base : Nat) (digits : List Char) : Option Int :=
  let n := Text.valueInBase base digits
  let areDigits := digits.all fun c => (Text.hexDigit? c).any (· < base)
  if !digits.isEmpty && areDigits && n < Nat.pow 2 63 then some n else none

/-- A whole number in any of its spellings. -/
def wholeOf? : List Char → Option Int
  | '0' :: 'x' :: rest => readInBase? 16 rest
  | '0' :: 'o' :: rest => readInBase? 8 rest
  | s => Text.readInt64? s

/-- The value of a plain scalar. -/
def plainValue (s : List Char) : Setting :=
  match wholeOf? s with
  | some n => .whole n
  | none =>
    match if s.any Char.isDigit then Binary64.ofChars? s else none with
    | some x => .real x
    | none =>
      match String.ofList s with
      | "" => .nothing
      | "~" => .nothing
      | "null" => .nothing
      | "true" => .flag true
      | "false" => .flag false
      | t => .text t

/-- Reads a plain scalar: its text, and the rest. -/
def readPlain? (inFlow : Bool) (s : List Char) : Option (List Char × List Char) :=
  if mayBegin s then
    let taken := ((takePlain inFlow false s).reverse.dropWhile isGap).reverse
    some (taken, s.drop taken.length)
  else none

/-- Reads a scalar. -/
def readScalar? (inFlow : Bool) : List Char → Option (Setting × List Char)
  | '\'' :: rest => (readSingle? rest).map fun (s, rest) => (.text (String.ofList s), rest)
  | '"' :: rest => (readDouble? rest).map fun (s, rest) => (.text (String.ofList s), rest)
  | s => (readPlain? inFlow s).map fun (s, rest) => (plainValue s, rest)

/-! ## Values in brackets -/

/-- The name that a scalar is as a key. -/
def keyOf? : Setting → Option String
  | .text s => some s
  | .whole n => some (toString n)
  | .flag b => some (if b then "true" else "false")
  | .real x => some x.plainText
  | _ => none

/-- The table of some members, unless a name stands twice among them. -/
def tableOf? : List (String × Setting) → Option (List (String × Setting))
  | [] => some []
  | (key, v) :: rest => do
    let ms ← tableOf? rest
    if (SortedMap.lookup key ms).isSome then none
    else some (Setting.withMember key v ms)

/-- Reads parts with commas between them up to a closing bracket. -/
def readParts? {α : Type} (part : List Char → Option (α × List Char)) (close : Char) :
    (fuel : Nat) → List Char → Option (List α × List Char)
  | 0, _ => none
  | fuel + 1, s =>
    match skipGaps s with
    | [] => none
    | c :: rest =>
      if c = close then some ([], rest)
      else
        match part (c :: rest) with
        | none => none
        | some (v, rest) =>
          match skipGaps rest with
          | ',' :: rest => (readParts? part close fuel rest).map fun (vs, rest) => (v :: vs, rest)
          | c :: rest => if c = close then some ([v], rest) else none
          | [] => none

/-- Reads a member of a table in brackets; without a colon its value is nothing. -/
def readMember? (value : List Char → Option (Setting × List Char)) (s : List Char) :
    Option ((String × Setting) × List Char) := do
  let (key, rest) ← readScalar? true s
  let name ← keyOf? key
  match skipGaps rest with
  | ':' :: rest =>
    match skipGaps rest with
    | [] => none
    | c :: more =>
      if c = ',' || c = '}' then some ((name, .nothing), c :: more)
      else (value (c :: more)).map fun (v, rest) => ((name, v), rest)
  | rest => some ((name, .nothing), rest)

/-- Reads a value in which brackets stand at most `depth` levels deep. -/
def readFlow? : (depth : Nat) → (inFlow : Bool) → List Char → Option (Setting × List Char)
  | depth, inFlow, s =>
    match s with
    | '[' :: rest =>
      match depth with
      | 0 => none
      | depth + 1 =>
        (readParts? (readFlow? depth true) ']' (rest.length + 1) rest).map fun (vs, rest) =>
          (.list vs, rest)
    | '{' :: rest =>
      match depth with
      | 0 => none
      | depth + 1 =>
        match readParts? (readMember? (readFlow? depth true)) '}' (rest.length + 1) rest with
        | none => none
        | some (ms, rest) => (tableOf? ms).map fun ms => (.table ms, rest)
    | _ => readScalar? inFlow s

/-- Whether nothing but a comment is left of a line. -/
def atLineEnd (s : List Char) : Bool :=
  match s, skipGaps s with
  | _, [] => true
  | c :: _, '#' :: _ => isGap c
  | _, _ => false

/-- The value of a text that stands on one line. -/
def inlineValue? (s : List Char) : Option Setting :=
  match readFlow? s.length false s with
  | some (v, rest) => if atLineEnd rest then some v else none
  | none => none

end ModelProbe.Yaml
