/-!
# Decimal digits

Numbers read from decimal digits.
-/

namespace ModelProbe.Text

/-- The number that decimal digits write. -/
def digitsValue (s : List Char) : Nat :=
  s.foldl (fun n c => n * 10 + (c.toNat - 48)) 0

/-- Reads decimal digits, perhaps after a plus sign, of a number below the limit. -/
def readBelow? (limit : Nat) (s : List Char) : Option Nat :=
  let digits := match s with
    | '+' :: rest => rest
    | _ => s
  if !digits.isEmpty && digits.all Char.isDigit && digitsValue digits < limit then
    some (digitsValue digits)
  else none

/-- Reads a number of 16 bits. -/
def readUInt16? (s : List Char) : Option UInt16 := (readBelow? 65536 s).map Nat.toUInt16

/-- Reads a whole number of 64 bits with a sign. -/
def readInt64? (s : List Char) : Option Int :=
  match s with
  | '-' :: digits =>
    if digits.head? = some '+' then none
    else (readBelow? (Nat.pow 2 63 + 1) digits).map fun n => -(n : Int)
  | _ => (readBelow? (Nat.pow 2 63) s).map fun n => (n : Int)

end ModelProbe.Text
