import ModelProbe.Text.Search
/-!
# Sets of characters as ranges of code points

Tables of character properties are kept as text: hexadecimal code points and ranges, in order,
with a space between them.
-/

namespace ModelProbe.Text

/-- The value of a hexadecimal digit. -/
def hexDigit? (c : Char) : Option Nat :=
  if '0' ≤ c ∧ c ≤ '9' then some (c.toNat - 48)
  else if 'a' ≤ c ∧ c ≤ 'f' then some (c.toNat - 87)
  else if 'A' ≤ c ∧ c ≤ 'F' then some (c.toNat - 55)
  else none

/-- The number that hexadecimal digits write, most significant first; other characters count as
zero. -/
def hexValue (s : List Char) : Nat :=
  s.foldl (fun n c => n * 16 + (hexDigit? c).getD 0) 0

/-- The number that digits of a base write, most significant first. -/
def valueInBase (base : Nat) (digits : List Char) : Nat :=
  digits.foldl (fun n c => n * base + (hexDigit? c).getD 0) 0

/-- Reads the character whose code point is written with so many hexadecimal digits. -/
def readCode? (count : Nat) (s : List Char) : Option (Char × List Char) :=
  let digits := s.take count
  let n := hexValue digits
  if digits.length = count && digits.all (fun c => (hexDigit? c).isSome) && n.isValidChar then
    some (Char.ofNat n, s.drop count)
  else none

theorem length_readCode?_le {count : Nat} {s rest : List Char} {c : Char}
    (h : readCode? count s = some (c, rest)) : rest.length ≤ s.length := by
  simp only [readCode?] at h
  split at h
  · simp only [Option.some.injEq, Prod.mk.injEq] at h
    simp [← h.2]
  · simp at h

/-- Ranges of code points, both ends included. -/
abbrev CodeRanges := List (Nat × Nat)

namespace CodeRanges

/-- Reads a code point, or two with a hyphen between them. -/
def readRange (range : List Char) : Nat × Nat :=
  match splitFirst? '-' range with
  | some (low, high) => (hexValue low, hexValue high)
  | none => (hexValue range, hexValue range)

/-- Reads the lines of a table such as `41-5A 61-7A AA`. -/
def ofText (table : List String) : CodeRanges :=
  table.flatMap fun line => (splitOn ' ' line.toList).map readRange

/-- Whether the code point lies in one of the ranges. -/
def hasCode (ranges : CodeRanges) (n : Nat) : Bool :=
  ranges.any fun (low, high) => low ≤ n && n ≤ high

/-- Whether the character lies in one of the ranges. -/
def contains (ranges : CodeRanges) (c : Char) : Bool :=
  ranges.hasCode c.toNat

end CodeRanges

end ModelProbe.Text
