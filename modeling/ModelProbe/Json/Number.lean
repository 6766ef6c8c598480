import ModelProbe.Json.Value
/-!
# Reading JSON numbers

The digits of a number are taken into a significand as long as it stays below 2^64. Integer
digits beyond that raise the exponent of ten, and digits of the fraction beyond it are dropped.
The number is then the significand times a power of ten, rounded after each step of at most 308
powers.
-/

namespace ModelProbe.JsonNumber

/-- The least number that no significand reaches. -/
def significandLimit : Nat := Nat.pow 2 64

/-- Takes digits into the significand as long as it stays below the limit: the significand, the
number of digits taken, and the rest. -/
def takeDigits (significand count : Nat) : List Char → Nat × Nat × List Char
  | [] => (significand, count, [])
  | c :: cs =>
    if c.isDigit then
      let next := significand * 10 + (c.toNat - 48)
      if next < significandLimit then takeDigits next (count + 1) cs
      else (significand, count, c :: cs)
    else (significand, count, c :: cs)

/-- `10^k` for `k` up to 308, rounded. -/
def tenPower (k : Nat) : Finite64 :=
  (Finite64.ofDecimal? false 1 k).getD (Finite64.zero false)

/-- `x / 10^(308 · steps + rest)`, rounded after each step. -/
def scaleDown? (rest : Nat) : (steps : Nat) → Finite64 → Option Finite64
  | 0, x => x.div? (tenPower rest)
  | steps + 1, x =>
    if x.isZero then some x else (x.div? (tenPower 308)).bind (scaleDown? rest steps)

/-- `x · 10^e`, downwards in steps of at most 308 powers; none when it is beyond the greatest
number. -/
def scale? (x : Finite64) (e : Int) : Option Finite64 :=
  if 0 ≤ e then
    if e ≤ 308 then x.mul? (tenPower e.toNat)
    else if x.isZero then some x else none
  else
    let steps := (e.natAbs - 1) / 308
    scaleDown? (e.natAbs - 308 * steps) steps x

/-- The number `± significand · 10^e`. -/
def ofParts? (negative : Bool) (significand : Nat) (e : Int) : Option JsonNumber := do
  let whole ← Finite64.ofRatio? false significand 1
  let x ← scale? whole e
  return real { x with negative := negative }

/-- The number of an integer text without further parts. -/
def ofInteger? (negative : Bool) (n : Nat) : Option JsonNumber :=
  if !negative then some (integer n)
  else if n = 0 then some (real (Finite64.zero true))
  else if n ≤ Nat.pow 2 63 then some (integer (-n))
  else ofParts? true n 0

/-- Reads the exponent after its letter: the exponent and the rest. -/
def readExponent? (s : List Char) : Option (Int × List Char) :=
  let (negative, digits) := match s with
    | '+' :: rest => (false, rest)
    | '-' :: rest => (true, rest)
    | _ => (false, s)
  let taken := digits.takeWhile Char.isDigit
  if taken.isEmpty then none
  else
    let n : Nat := taken.foldl (fun n c => n * 10 + (c.toNat - 48)) 0
    some (if negative then -n else n, digits.dropWhile Char.isDigit)

/-- Reads an exponent, when there is one, and finishes the number. -/
def finish? (negative : Bool) (significand : Nat) (e : Int) (s : List Char) :
    Option (JsonNumber × List Char) :=
  match s with
  | 'e' :: rest | 'E' :: rest => do
    let (more, rest) ← readExponent? rest
    return (← ofParts? negative significand (e + more), rest)
  | _ => do return (← ofParts? negative significand e, s)

/-- Reads what stands after the digits before the point, of which the last `extra` have not gone
into the significand. -/
def readFraction? (negative : Bool) (significand extra : Nat) (s : List Char) :
    Option (JsonNumber × List Char) :=
  match s with
  | '.' :: fraction =>
    if !(fraction.head?.any Char.isDigit) then none
    else
      let (significand, count, more) := takeDigits significand 0 fraction
      finish? negative significand ((extra : Int) - count) (more.dropWhile Char.isDigit)
  | 'e' :: _ | 'E' :: _ => finish? negative significand extra s
  | _ =>
    if extra = 0 then do return (← ofInteger? negative significand, s)
    else finish? negative significand extra s

/-- Reads a number after its sign; a zero is followed by no further digit. -/
def readUnsigned? (negative : Bool) : List Char → Option (JsonNumber × List Char)
  | [] => none
  | first :: others =>
    if !first.isDigit then none
    else
      let (significand, _, afterTaken) :=
        if first = '0' then (0, 1, others) else takeDigits 0 0 (first :: others)
      let extra := afterTaken.takeWhile Char.isDigit
      if first = '0' ∧ !extra.isEmpty then none
      else readFraction? negative significand extra.length (afterTaken.dropWhile Char.isDigit)

/-- Reads a number: its value and the rest of the text. -/
def read? : List Char → Option (JsonNumber × List Char)
  | '-' :: rest => readUnsigned? true rest
  | s => readUnsigned? false s

end ModelProbe.JsonNumber
