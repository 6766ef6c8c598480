import ModelProbe.Number.Binary64
import ModelProbe.Text.Digits
/-!
# Reading decimal numbers

The spellings of a binary floating-point number: digits with a point anywhere among them, an
exponent, a sign, and names for what is not finite.
-/

namespace ModelProbe.Binary64

/-- The sign that a number may begin with, and the rest. -/
def splitSign : List Char → Bool × List Char
  | '-' :: rest => (true, rest)
  | '+' :: rest => (false, rest)
  | s => (false, s)

/-- Reads an exponent with its letter; an empty text is the exponent zero. -/
def readExponent? : List Char → Option Int
  | [] => some 0
  | mark :: rest =>
    let (negative, digits) := splitSign rest
    if (mark != 'e' && mark != 'E') || digits.isEmpty || !digits.all Char.isDigit then none
    else
      let n : Int := Text.digitsValue digits
      some (if negative then -n else n)

/-- Reads the digits of a number: at least one stands before or after the point. -/
def readDigits? (negative : Bool) (s : List Char) : Option Binary64 :=
  let before := s.takeWhile Char.isDigit
  let (after, rest) := match s.drop before.length with
    | '.' :: rest => (rest.takeWhile Char.isDigit, rest.dropWhile Char.isDigit)
    | rest => ([], rest)
  if before.isEmpty && after.isEmpty then none
  else
    (readExponent? rest).map fun exponent =>
      ofDecimal negative (Text.digitsValue (before ++ after)) (exponent - after.length)

/-- Reads a number in any spelling; names in any letter case. -/
def ofChars? (s : List Char) : Option Binary64 :=
  let (negative, digits) := splitSign s
  match String.ofList (digits.map Char.toLower) with
  | "inf" => some (infinite negative)
  | "infinity" => some (infinite negative)
  | "nan" => some nan
  | _ => readDigits? negative digits

end ModelProbe.Binary64
