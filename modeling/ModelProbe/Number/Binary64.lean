/-!
# Binary floating-point numbers of 64 bits

A finite number is a sign, a significand below 2^53 and a power of two; arithmetic is exact on
ratios of natural numbers and rounds once, to the nearest number, halves to the even one.
-/

namespace ModelProbe

/-- The finite number `± significand · 2^exponent`. -/
structure Finite64 where
  negative : Bool
  significand : Nat
  exponent : Int
  deriving DecidableEq, Repr, Inhabited

/-- A binary floating-point number of 64 bits. -/
inductive Binary64
  | finite (x : Finite64)
  | infinite (negative : Bool)
  | nan
  deriving DecidableEq, Repr, Inhabited

namespace Finite64

/-- The least power of two. -/
def minExponent : Int := -1074

/-- The greatest power of two that a significand of 53 bits stands with. -/
def maxExponent : Int := 971

/-- The number zero. -/
def zero (negative : Bool) : Finite64 := ⟨negative, 0, minExponent⟩

/-- Whether the number is zero. -/
def isZero (x : Finite64) : Bool := x.significand == 0

/-- The ratio `num / den / 2^e` as a pair of numbers. -/
def scaled (num den : Nat) (e : Int) : Nat × Nat :=
  if 0 ≤ e then (num, den * Nat.pow 2 e.toNat) else (num * Nat.pow 2 (-e).toNat, den)

/-- The natural number nearest to `n / d`; a half goes to the even one. -/
def roundHalfEven (n d : Nat) : Nat :=
  let q := n / d
  let r := n % d
  if 2 * r < d then q
  else if d < 2 * r then q + 1
  else if q % 2 = 0 then q else q + 1

/-- The number nearest to `± num / den`; none when it is beyond the greatest one. -/
def ofRatio? (negative : Bool) (num den : Nat) : Option Finite64 :=
  if num = 0 then some (zero negative)
  else
    let low := max ((Nat.log2 num : Int) - Nat.log2 den - 53) minExponent
    let first := scaled num den low
    let e := if Nat.pow 2 53 ≤ first.1 / first.2 then low + 1 else low
    let ratio := scaled num den e
    let m := roundHalfEven ratio.1 ratio.2
    let x : Finite64 :=
      if m = Nat.pow 2 53 then ⟨negative, Nat.pow 2 52, e + 1⟩ else ⟨negative, m, e⟩
    if maxExponent < x.exponent then none else some x

/-- The numerator of the absolute value. -/
def num (x : Finite64) : Nat := x.significand * Nat.pow 2 x.exponent.toNat

/-- The denominator of the absolute value. -/
def den (x : Finite64) : Nat := Nat.pow 2 (-x.exponent).toNat

/-- The number nearest to `± digits · 10^exponent`. Beyond `10^310` there is no number, and what is
below `10^-330` is nearest to zero. -/
def ofDecimal? (negative : Bool) (digits : Nat) (exponent : Int) : Option Finite64 :=
  let magnitude := exponent + (Nat.toDigits 10 digits).length
  if digits = 0 ∨ magnitude < -330 then some (zero negative)
  else if 310 ≤ magnitude then none
  else if 0 ≤ exponent then ofRatio? negative (digits * Nat.pow 10 exponent.toNat) 1
  else ofRatio? negative digits (Nat.pow 10 (-exponent).toNat)

/-- The product, rounded. -/
def mul? (x y : Finite64) : Option Finite64 :=
  ofRatio? (x.negative != y.negative) (x.num * y.num) (x.den * y.den)

/-- The quotient, rounded; a quotient by zero is none. -/
def div? (x y : Finite64) : Option Finite64 :=
  if y.isZero then none
  else ofRatio? (x.negative != y.negative) (x.num * y.den) (x.den * y.num)

/-- The nearest integer to the absolute value; a half goes away from zero. -/
def roundAbs (x : Finite64) : Nat :=
  (2 * x.num + x.den) / (2 * x.den)

end Finite64

namespace Binary64

/-- The number nearest to `± digits · 10^exponent`; beyond the greatest one it is infinite. -/
def ofDecimal (negative : Bool) (digits : Nat) (exponent : Int) : Binary64 :=
  match Finite64.ofDecimal? negative digits exponent with
  | some x => finite x
  | none => infinite negative

/-- Whether the number is zero of either sign. -/
def isZero : Binary64 → Bool
  | finite x => x.isZero
  | _ => false

/-- The nearest integer of at least 0 and at most `limit`; what is no number counts as 0. -/
def clamp (limit : Nat) : Binary64 → Nat
  | finite x => if x.negative then 0 else min x.roundAbs limit
  | infinite negative => if negative then 0 else limit
  | nan => 0

end Binary64

end ModelProbe
