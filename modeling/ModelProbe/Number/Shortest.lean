import ModelProbe.Number.Binary64
/-!
# The shortest decimal of a binary number

Among the decimals that read back as a number, the one with the fewest digits, and of those with
equally many the one nearest to it. A decimal reads back when it lies in the interval of reals
that round to the number.
-/

namespace ModelProbe

/-- The decimal number `digits · 10^exponent`. -/
structure Decimal where
  digits : Nat
  exponent : Int
  deriving DecidableEq, Repr, Inhabited

namespace Finite64

/-- The number of decimal digits of `n`. -/
def countDigits (n : Nat) : Nat := (Nat.toDigits 10 n).length

/-- The exponent of ten of the first digit of `num / den`, both positive. -/
def leadingExponent (num den : Nat) : Int :=
  if den ≤ num then (countDigits (num / den) : Int) - 1
  else
    let t := countDigits (den / num)
    if den ≤ num * Nat.pow 10 (t - 1) then -((t : Int) - 1) else -(t : Int)

/-- Compares `digits · 10^exponent` with `num / den`. -/
def compareDecimal (d : Decimal) (num den : Nat) : Ordering :=
  compare (d.digits * Nat.pow 10 d.exponent.toNat * den) (num * Nat.pow 10 (-d.exponent).toNat)

/-- Whether a decimal lies in the interval that rounds to the absolute value of `x`: half way to
the neighbours, the ends included when the significand is even. Below a power of two the
neighbour is nearer. -/
def readsAs (x : Finite64) (d : Decimal) : Bool :=
  let m := x.significand
  let nearBelow := m == Nat.pow 2 52 && minExponent < x.exponent
  let low := if nearBelow then 4 * m - 1 else 4 * m - 2
  let high := 4 * m + 2
  let up := Nat.pow 2 x.exponent.toNat
  let down := 4 * x.den
  let atLow := compareDecimal d (low * up) down
  let atHigh := compareDecimal d (high * up) down
  if m % 2 = 0 then atLow.isGE && atHigh.isLE else atLow.isGT && atHigh.isLT

/-- The better of the two neighbours of `x` on the grid of multiples of `10^e`, when one of them
reads back. -/
def onGrid? (x : Finite64) (e : Int) : Option Decimal :=
  let scaledDen := x.den * Nat.pow 10 e.toNat
  let scaledNum := x.num * Nat.pow 10 (-e).toNat
  let q := scaledNum / scaledDen
  let r := scaledNum % scaledDen
  let below : Decimal := ⟨q, e⟩
  let above : Decimal := ⟨q + 1, e⟩
  let preferBelow := 2 * r < scaledDen || (2 * r == scaledDen && q % 2 == 0)
  match readsAs x below, readsAs x above with
  | true, true => some (if preferBelow then below else above)
  | true, false => some below
  | false, true => some above
  | false, false => none

/-- The first grid with a decimal that reads back, from the coarsest on. -/
def firstOnGrid (x : Finite64) (e : Int) : Nat → Decimal
  | 0 => (onGrid? x e).getD ⟨0, 0⟩
  | more + 1 =>
    match onGrid? x e with
    | some d => d
    | none => firstOnGrid x (e - 1) more

/-- The decimal without zeros at its end. -/
def dropZeros : Nat → Decimal → Decimal
  | 0, d => d
  | more + 1, d =>
    if d.digits % 10 = 0 ∧ d.digits ≠ 0 then dropZeros more ⟨d.digits / 10, d.exponent + 1⟩ else d

/-- The shortest decimal that reads back as the absolute value of `x`; seventeen digits always
do. -/
def shortest (x : Finite64) : Decimal :=
  if x.isZero then ⟨0, 0⟩
  else dropZeros 20 (firstOnGrid x (leadingExponent x.num x.den) 16)

end Finite64

/-! ## Writing decimals -/

namespace Decimal

/-- The digits as characters. -/
def digitChars (d : Decimal) : List Char := Nat.toDigits 10 d.digits

/-- The digits written without an exponent. -/
def positional (d : Decimal) : List Char :=
  let ds := d.digitChars
  if 0 ≤ d.exponent then ds ++ List.replicate d.exponent.toNat '0'
  else
    let places := (-d.exponent).toNat
    let padded := List.replicate (places + 1 - ds.length) '0' ++ ds
    padded.take (padded.length - places) ++ '.' :: padded.drop (padded.length - places)

/-- The digits written with the exponent of the first one: `1e-7`, `1.25e+20`. -/
def scientific (d : Decimal) : List Char :=
  let ds := d.digitChars
  let e := d.exponent + (ds.length : Int) - 1
  let mantissa := match ds with
    | first :: (next :: rest) => first :: '.' :: next :: rest
    | _ => ds
  mantissa ++ 'e' :: (if e < 0 then '-' else '+') :: Nat.toDigits 10 e.natAbs

end Decimal

namespace Finite64

/-- The sign as it is written. -/
def sign (x : Finite64) : List Char := if x.negative then ['-'] else []

/-- The shortest digits without an exponent, whole numbers without a point. -/
def plainText (x : Finite64) : String :=
  String.ofList (x.sign ++ x.shortest.positional)

end Finite64

namespace Binary64

/-- The shortest digits without an exponent; names for what is not finite. -/
def plainText : Binary64 → String
  | finite x => x.plainText
  | infinite negative => if negative then "-inf" else "inf"
  | nan => "NaN"

end Binary64

end ModelProbe
