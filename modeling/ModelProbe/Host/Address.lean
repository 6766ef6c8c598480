import ModelProbe.Text.CodeRanges
import ModelProbe.Text.Digits
/-!
# Numeric addresses

Addresses of 32 bits, of up to four numbers of which the last one fills what is left, and
addresses of 128 bits, of eight groups. Either kind has one normal text.
-/

namespace ModelProbe.Host

/-! ## Addresses of 32 bits -/

/-- Reads a number: decimal, hexadecimal after `0x`, or octal after `0`. -/
def readNumber? (s : List Char) : Option Nat :=
  let (base, digits) := match s with
    | '0' :: 'x' :: rest => (16, rest)
    | '0' :: 'X' :: rest => (16, rest)
    | '0' :: c :: rest => (8, c :: rest)
    | _ => (10, s)
  if s.isEmpty || !digits.all (fun c => (Text.hexDigit? c).any (· < base)) then none
  else some (Text.valueInBase base digits)

/-- The pieces of a text between its points, without an empty one at its end. -/
def numberPieces (s : List Char) : List (List Char) :=
  let pieces := Text.splitOn '.' s
  if pieces.getLast? = some [] then pieces.dropLast else pieces

/-- Whether the last piece of a name is a number, which makes the name an address. -/
def endsInNumber (s : List Char) : Bool :=
  (numberPieces s).getLast?.any fun last =>
    (!last.isEmpty && last.all Char.isDigit) || (readNumber? last).isSome

/-- Reads an address of 32 bits. -/
def readAddress32? (s : List Char) : Option Nat := do
  let numbers ← (numberPieces s).mapM readNumber?
  let last ← numbers.getLast?
  let first := numbers.dropLast
  if 3 < first.length || first.any (255 < ·) || Nat.pow 256 (4 - first.length) ≤ last then none
  else some (first.foldr (fun n rest => n * Nat.pow 256 3 + rest / 256) 0 + last)

/-- The text of an address of 32 bits: its four bytes. -/
def address32Text (n : Nat) : List Char :=
  let bytes := [n / Nat.pow 256 3 % 256, n / Nat.pow 256 2 % 256, n / 256 % 256, n % 256]
  Text.joinWith ['.'] (bytes.map (Nat.toDigits 10))

/-! ## Addresses of 128 bits -/

/-- Reads a group of up to four hexadecimal digits. -/
def readGroup? (s : List Char) : Option Nat :=
  if s.isEmpty || 4 < s.length || !s.all (fun c => (Text.hexDigit? c).isSome) then none
  else some (Text.hexValue s)

/-- Reads a byte in decimal digits without zeros in front. -/
def readByte? (s : List Char) : Option Nat :=
  if s.isEmpty || !s.all Char.isDigit || (1 < s.length && s.head? = some '0') ||
      255 < Text.digitsValue s then none
  else some (Text.digitsValue s)

/-- Reads four bytes as two groups. -/
def readByteGroups? (s : List Char) : Option (List Nat) :=
  match (Text.splitOn '.' s).mapM readByte? with
  | some [a, b, c, d] => some [a * 256 + b, c * 256 + d]
  | _ => none

/-- Reads groups with colons between them; the last two may be written as four bytes. -/
def readGroups? (mayEndInBytes : Bool) : List (List Char) → Option (List Nat)
  | [] => some []
  | [last] =>
    if last.contains '.' then if mayEndInBytes then readByteGroups? last else none
    else (readGroup? last).map fun n => [n]
  | group :: rest => do
    return (← readGroup? group) :: (← readGroups? mayEndInBytes rest)

/-- The groups of a text; an empty one has none. -/
def groupsOf? (mayEndInBytes : Bool) (s : List Char) : Option (List Nat) :=
  if s.isEmpty then some [] else readGroups? mayEndInBytes (Text.splitOn ':' s)

/-- Reads an address of 128 bits as its groups. A double colon stands for one group or more that
are zero. -/
def readAddress128? (s : List Char) : Option (List Nat) :=
  match Text.cutAt? [':', ':'] s with
  | none => (groupsOf? true s).filter fun groups => groups.length = 8
  | some (left, right) =>
    match groupsOf? false left, groupsOf? true right with
    | some ls, some rs =>
      if ls.length + rs.length < 8 then
        some (ls ++ List.replicate (8 - ls.length - rs.length) 0 ++ rs)
      else none
    | _, _ => none

/-- The place and length of the first of the longest runs of zeros. -/
def longestZeros (groups : List Nat) : Nat × Nat :=
  (List.range groups.length).foldl (fun best i =>
    let run := ((groups.drop i).takeWhile (· == 0)).length
    if best.2 < run then (i, run) else best) (0, 0)

/-- Groups in hexadecimal digits with colons between them. -/
def groupsText (groups : List Nat) : List Char :=
  Text.joinWith [':'] (groups.map (Nat.toDigits 16))

/-- The text of an address of 128 bits; a double colon stands for the longest run of zeros, when
that is longer than one. -/
def address128Text (groups : List Nat) : List Char :=
  let (start, run) := longestZeros groups
  if run < 2 then groupsText groups
  else groupsText (groups.take start) ++ [':', ':'] ++ groupsText (groups.drop (start + run))

end ModelProbe.Host
