import ModelProbe.Setting
import ModelProbe.Text.CodeRanges
import ModelProbe.Text.Digits
/-!
# TOML scalars

Strings with and without escapes on one or several lines, and the words that stand without quotes:
truth values, whole and real numbers, dates and times. A date or time is kept as its text in a
normal form.
-/

namespace ModelProbe.Toml

/-- Whether the character is a space or a tab. -/
def isGap (c : Char) : Bool := c == ' ' || c == '\t'

/-- Whether a string or a comment may hold the character as it is. -/
def isPlain (c : Char) : Bool :=
  c == '\t' || (32 ≤ c.toNat && c.toNat != 127)

/-! ## Strings -/

/-- The character of an escape of one letter. -/
def letterEscape? : Char → Option Char
  | 'b' => some '\x08'
  | 't' => some '\t'
  | 'n' => some '\n'
  | 'f' => some '\x0c'
  | 'r' => some '\r'
  | 'e' => some '\x1b'
  | '"' => some '"'
  | '\\' => some '\\'
  | _ => none

/-- Reads an escape after its backslash. -/
def readEscape? : List Char → Option (Char × List Char)
  | 'x' :: rest => Text.readCode? 2 rest
  | 'u' :: rest => Text.readCode? 4 rest
  | 'U' :: rest => Text.readCode? 8 rest
  | c :: rest => (letterEscape? c).map (·, rest)
  | [] => none

theorem length_readEscape? {s rest : List Char} {c : Char} (h : readEscape? s = some (c, rest)) :
    rest.length < s.length := by
  unfold readEscape? at h
  split at h
  · have := Text.length_readCode?_le h; simp; omega
  · have := Text.length_readCode?_le h; simp; omega
  · have := Text.length_readCode?_le h; simp; omega
  · simp only [Option.map_eq_some_iff, Prod.mk.injEq] at h
    obtain ⟨_, _, _, rfl⟩ := h
    simp
  · simp at h

/-- Reads a string with escapes, after its quote, up to the next one. -/
def readBasic? : List Char → Option (List Char × List Char)
  | [] => none
  | c :: cs =>
    if c = '"' then some ([], cs)
    else if c = '\\' then
      match _h : readEscape? cs with
      | none => none
      | some (e, rest) => (readBasic? rest).map fun (s, rest) => (e :: s, rest)
    else if isPlain c then (readBasic? cs).map fun (s, rest) => (c :: s, rest)
    else none
termination_by s => s.length
decreasing_by
  · have := length_readEscape? ‹_›
    simp only [List.length_cons]; omega
  · simp

/-- Reads a string without escapes, after its quote, up to the next one. -/
def readLiteral? : List Char → Option (List Char × List Char)
  | [] => none
  | c :: cs =>
    if c = '\'' then some ([], cs)
    else if isPlain c then (readLiteral? cs).map fun (s, rest) => (c :: s, rest)
    else none

/-- The end of a string of several lines, where a run of its quotes begins: of three to five
quotes the last three close the string. Fewer are part of it, and more are refused. -/
def closing? (quote : Char) (s : List Char) : Option (Option (List Char × List Char)) :=
  let run := (s.takeWhile (· == quote)).length
  if run < 3 then some none
  else if run ≤ 5 then some (some (List.replicate (run - 3) quote, s.drop run))
  else none

/-- The text after one line break, when it begins with one. -/
def dropBreak? : List Char → Option (List Char)
  | '\n' :: rest => some rest
  | '\r' :: '\n' :: rest => some rest
  | _ => none

/-- The text without the line break that it may begin with. -/
def dropBreak (s : List Char) : List Char := (dropBreak? s).getD s

/-- The text without the gaps and line breaks that it begins with. -/
def dropGapsAndBreaks : List Char → List Char
  | '\r' :: '\n' :: rest => dropGapsAndBreaks rest
  | c :: rest => if isGap c || c == '\n' then dropGapsAndBreaks rest else c :: rest
  | [] => []

theorem length_dropGapsAndBreaks (s : List Char) :
    (dropGapsAndBreaks s).length ≤ s.length := by
  fun_induction dropGapsAndBreaks s <;> simp_all <;> omega

/-- Reads a string with escapes on several lines, after its quotes and a first line break. A
backslash at the end of a line takes away the line break and all gaps and breaks after it. -/
def readLongBasic? : List Char → Option (List Char × List Char)
  | [] => none
  | c :: cs =>
    if c = '"' then
      match closing? '"' (c :: cs) with
      | none => none
      | some (some found) => some found
      | some none => (readLongBasic? cs).map fun (s, rest) => (c :: s, rest)
    else if c = '\\' then
      if (dropBreak? (cs.dropWhile isGap)).isSome then readLongBasic? (dropGapsAndBreaks cs)
      else
        match _h : readEscape? cs with
        | none => none
        | some (e, rest) => (readLongBasic? rest).map fun (s, rest) => (e :: s, rest)
    else if c = '\r' ∧ cs.head? = some '\n' then readLongBasic? cs
    else if c = '\n' ∨ isPlain c then (readLongBasic? cs).map fun (s, rest) => (c :: s, rest)
    else none
termination_by s => s.length
decreasing_by
  · simp
  · have := length_dropGapsAndBreaks cs
    simp only [List.length_cons]; omega
  · have := length_readEscape? ‹_›
    simp only [List.length_cons]; omega
  · simp
  · simp

/-- Reads a string without escapes on several lines, after its quotes and a first line break. -/
def readLongLiteral? : List Char → Option (List Char × List Char)
  | [] => none
  | c :: cs =>
    if c = '\'' then
      match closing? '\'' (c :: cs) with
      | none => none
      | some (some found) => some found
      | some none => (readLongLiteral? cs).map fun (s, rest) => (c :: s, rest)
    else if c = '\r' ∧ cs.head? = some '\n' then readLongLiteral? cs
    else if c = '\n' ∨ isPlain c then (readLongLiteral? cs).map fun (s, rest) => (c :: s, rest)
    else none

/-- Reads a string of any kind. -/
def readString? : List Char → Option (List Char × List Char)
  | '"' :: '"' :: '"' :: rest => readLongBasic? (dropBreak rest)
  | '\'' :: '\'' :: '\'' :: rest => readLongLiteral? (dropBreak rest)
  | '"' :: rest => readBasic? rest
  | '\'' :: rest => readLiteral? rest
  | _ => none

/-! ## Numbers -/

/-- The digits of a number in which single underscores may stand between digits. -/
def ungroup? (isDigit : Char → Bool) : List Char → Option (List Char)
  | [] => none
  | [c] => if isDigit c then some [c] else none
  | c :: '_' :: rest => if isDigit c then (ungroup? isDigit rest).map (c :: ·) else none
  | c :: rest => if isDigit c then (ungroup? isDigit rest).map (c :: ·) else none

/-- Decimal digits that do not begin with a zero, unless that is all. -/
def readDecimal? (s : List Char) : Option (List Char) :=
  match ungroup? Char.isDigit s with
  | some ['0'] => some ['0']
  | some ('0' :: _) => none
  | digits => digits

/-- The sign that a number may begin with, and the rest. -/
def splitSign : List Char → Bool × List Char
  | '-' :: rest => (true, rest)
  | '+' :: rest => (false, rest)
  | s => (false, s)

/-- A whole number, when it fits in 64 bits with a sign. -/
def whole? (negative : Bool) (n : Nat) : Option Setting :=
  if negative then if n ≤ Nat.pow 2 63 then some (.whole (-n)) else none
  else if n < Nat.pow 2 63 then some (.whole n) else none

/-- A whole number without a sign in a base. -/
def readInBase? (base : Nat) (s : List Char) : Option Setting :=
  (ungroup? (fun c => (Text.hexDigit? c).any (· < base)) s).bind fun digits =>
    whole? false (Text.valueInBase base digits)

/-- Reads a whole number. -/
def readWhole? : List Char → Option Setting
  | '0' :: 'x' :: rest => readInBase? 16 rest
  | '0' :: 'o' :: rest => readInBase? 8 rest
  | '0' :: 'b' :: rest => readInBase? 2 rest
  | s =>
    let (negative, digits) := splitSign s
    (readDecimal? digits).bind fun digits => whole? negative (Text.digitsValue digits)

/-- The exponent of a real number. -/
def readExponent? (s : List Char) : Option Int :=
  let (negative, digits) := splitSign s
  (ungroup? Char.isDigit digits).map fun digits =>
    if negative then -(Text.digitsValue digits : Int) else Text.digitsValue digits

/-- A real number with these digits before and after its point; too large a one is refused. -/
def real? (negative : Bool) (before after : List Char) (exponent : Int) : Option Setting :=
  (Finite64.ofDecimal? negative (Text.digitsValue (before ++ after)) (exponent - after.length)).map
    fun x => .real (.finite x)

/-- Reads the digits of a real number: a point, an exponent or both make it one. -/
def readDigits? (negative : Bool) (s : List Char) : Option Setting := do
  let mantissa := s.takeWhile fun c => c != 'e' && c != 'E'
  let exponent ← match s.drop mantissa.length with
    | [] => some none
    | _ :: rest => (readExponent? rest).map some
  match Text.splitFirst? '.' mantissa with
  | some (before, after) =>
    real? negative (← readDecimal? before) (← ungroup? Char.isDigit after) (exponent.getD 0)
  | none => real? negative (← readDecimal? mantissa) [] (← exponent)

/-- Reads a real number. -/
def readReal? (s : List Char) : Option Setting :=
  let (negative, digits) := splitSign s
  match digits with
  | ['i', 'n', 'f'] => some (.real (.infinite negative))
  | ['n', 'a', 'n'] => some (.real .nan)
  | _ => readDigits? negative digits

/-! ## Dates and times -/

/-- Reads a number of so many digits, between two bounds. -/
def readField? (width low high : Nat) (s : List Char) : Option (Nat × List Char) :=
  let digits := s.take width
  let n := Text.digitsValue digits
  if digits.length = width && digits.all Char.isDigit && low ≤ n && n ≤ high then
    some (n, s.drop width)
  else none

/-- Drops a character that must be there. -/
def expect? (c : Char) : List Char → Option (List Char)
  | d :: rest => if d = c then some rest else none
  | [] => none

/-- The number of days of a month. -/
def daysIn (year month : Nat) : Nat :=
  if month = 2 then
    if year % 4 = 0 && (year % 100 != 0 || year % 400 = 0) then 29 else 28
  else if [4, 6, 9, 11].contains month then 30 else 31

/-- The decimal digits of a number with zeros in front up to a width. -/
def padded (width n : Nat) : List Char :=
  let digits := Nat.toDigits 10 n
  List.replicate (width - digits.length) '0' ++ digits

/-- Reads a date: its text, and the rest. -/
def readDate? (s : List Char) : Option (List Char × List Char) := do
  let (year, s) ← readField? 4 0 9999 s
  let s ← expect? '-' s
  let (month, s) ← readField? 2 1 12 s
  let s ← expect? '-' s
  let (day, s) ← readField? 2 1 (daysIn year month) s
  return (padded 4 year ++ '-' :: padded 2 month ++ '-' :: padded 2 day, s)

/-- The digits of a fraction, at most nine, without zeros at their end. -/
def fractionText (digits : List Char) : List Char :=
  let kept := ((digits.take 9).reverse.dropWhile (· == '0')).reverse
  '.' :: if kept.isEmpty then ['0'] else kept

/-- Reads the seconds of a time, which may be missing. -/
def readSeconds? : List Char → Option (List Char × List Char)
  | ':' :: s => do
    let (second, s) ← readField? 2 0 60 s
    let whole := ':' :: padded 2 second
    match s with
    | '.' :: s =>
      let digits := s.takeWhile Char.isDigit
      if digits.isEmpty then none
      else some (whole ++ fractionText digits, s.drop digits.length)
    | _ => some (whole, s)
  | s => some ([], s)

/-- Reads a time: its text, and the rest. -/
def readTime? (s : List Char) : Option (List Char × List Char) := do
  let (hour, s) ← readField? 2 0 23 s
  let s ← expect? ':' s
  let (minute, s) ← readField? 2 0 59 s
  let (seconds, s) ← readSeconds? s
  return (padded 2 hour ++ ':' :: padded 2 minute ++ seconds, s)

/-- The text of a time's offset from universal time, which may be missing. -/
def readOffset? : List Char → Option (List Char)
  | [] => some []
  | ['Z'] => some ['Z']
  | ['z'] => some ['Z']
  | sign :: s => do
    if sign != '+' && sign != '-' then none
    let (hour, s) ← readField? 2 0 23 s
    let s ← expect? ':' s
    let (minute, s) ← readField? 2 0 59 s
    if s.isEmpty then some (sign :: padded 2 hour ++ ':' :: padded 2 minute) else none

/-- Reads a date, a time, or both. -/
def readMoment? (s : List Char) : Option (List Char) :=
  match readDate? s with
  | some (date, []) => some date
  | some (date, mark :: rest) =>
    if mark != 'T' && mark != 't' && mark != ' ' then none
    else
      match readTime? rest with
      | some (time, rest) => (readOffset? rest).map fun offset => date ++ 'T' :: time ++ offset
      | none => none
  | none =>
    match readTime? s with
    | some (time, []) => some time
    | _ => none

/-! ## Words -/

/-- Whether a value without quotes may have this character. -/
def isWordChar (c : Char) : Bool :=
  c.isAlphanum || c == '+' || c == '-' || c == '_' || c == '.' || c == ':'

/-- Splits off a value without quotes; a date may have its time after one space. -/
def splitWord (s : List Char) : List Char × List Char :=
  let word := s.takeWhile isWordChar
  match s.drop word.length with
  | ' ' :: d :: rest =>
    if d.isDigit && (readDate? word).any (fun (_, more) => more.isEmpty) then
      (word ++ ' ' :: (d :: rest).takeWhile isWordChar, (d :: rest).dropWhile isWordChar)
    else (word, ' ' :: d :: rest)
  | rest => (word, rest)

/-- The value of a word. -/
def wordValue? (word : List Char) : Option Setting :=
  if word = "true".toList then some (.flag true)
  else if word = "false".toList then some (.flag false)
  else
    match readWhole? word with
    | some v => some v
    | none =>
      match readReal? word with
      | some v => some v
      | none => (readMoment? word).map fun s => .text (String.ofList s)

end ModelProbe.Toml
