import ModelProbe.Json.Value
import ModelProbe.Text.Quoted
/-!
# Writing JSON

The compact form has no blanks; the indented form has one member or item a line. Numbers that
are not integers have the shortest digits that read back.
-/

namespace ModelProbe

namespace JsonNumber

/-- Digits with a point: `.0` follows a whole number. -/
def withPoint (s : List Char) : List Char := if s.contains '.' then s else s ++ ['.', '0']

/-- A real number: without an exponent from `1e-5` up to below `1e16`, and with a point. -/
def realText (x : Finite64) : List Char :=
  let d := x.shortest
  let magnitude := d.exponent + (d.digitChars.length : Int)
  x.sign ++
    if x.isZero ∨ (-5 < magnitude ∧ magnitude ≤ 16) then
      withPoint d.positional
    else d.scientific

/-- The text of a number. -/
def text : JsonNumber → List Char
  | integer n => (toString n).toList
  | real x => realText x

end JsonNumber

namespace Json

/-- The characters that stand for `c` in a string. -/
def escaped (c : Char) : List Char :=
  if c = '"' then ['\\', '"']
  else if c = '\\' then ['\\', '\\']
  else if c = '\x08' then ['\\', 'b']
  else if c = '\x0c' then ['\\', 'f']
  else if c = '\n' then ['\\', 'n']
  else if c = '\r' then ['\\', 'r']
  else if c = '\t' then ['\\', 't']
  else if c.toNat < 32 then
    ['\\', 'u', '0', '0', Nat.digitChar (c.toNat / 16), Nat.digitChar (c.toNat % 16)]
  else [c]

/-- A string between quotes. -/
def stringText (s : List Char) : List Char := '"' :: s.flatMap escaped ++ ['"']

mutual

/-- The compact text of a value. -/
def compactChars : Json → List Char
  | null => "null".toList
  | bool true => "true".toList
  | bool false => "false".toList
  | number n => n.text
  | string s => stringText s.toList
  | array items => '[' :: compactItems items ++ [']']
  | object members => '\x7b' :: compactMembers members ++ ['\x7d']

/-- The items with commas between them. -/
def compactItems : List Json → List Char
  | [] => []
  | [v] => compactChars v
  | v :: vs => compactChars v ++ ',' :: compactItems vs

/-- The members with commas between them. -/
def compactMembers : List (String × Json) → List Char
  | [] => []
  | [(k, v)] => stringText k.toList ++ ':' :: compactChars v
  | (k, v) :: ms => stringText k.toList ++ ':' :: compactChars v ++ ',' :: compactMembers ms

end

/-- The compact text of a value. -/
def compact (v : Json) : String := String.ofList v.compactChars

/-- A line break and `depth` steps of two blanks. -/
def newLine (depth : Nat) : List Char := '\n' :: List.replicate (2 * depth) ' '

mutual

/-- The indented text of a value that stands `depth` levels deep. -/
def indentedChars (depth : Nat) : Json → List Char
  | array [] => "[]".toList
  | array items => '[' :: indentedItems (depth + 1) items ++ newLine depth ++ [']']
  | object [] => ['\x7b', '\x7d']
  | object members =>
    '\x7b' :: indentedMembers (depth + 1) members ++ newLine depth ++ ['\x7d']
  | null => "null".toList
  | bool true => "true".toList
  | bool false => "false".toList
  | number n => n.text
  | string s => stringText s.toList

/-- The items, each on a line of its own. -/
def indentedItems (depth : Nat) : List Json → List Char
  | [] => []
  | [v] => newLine depth ++ indentedChars depth v
  | v :: vs => newLine depth ++ indentedChars depth v ++ ',' :: indentedItems depth vs

/-- The members, each on a line of its own. -/
def indentedMembers (depth : Nat) : List (String × Json) → List Char
  | [] => []
  | [(k, v)] => newLine depth ++ stringText k.toList ++ ':' :: ' ' :: indentedChars depth v
  | (k, v) :: ms =>
    newLine depth ++ stringText k.toList ++ ':' :: ' ' :: indentedChars depth v ++
      ',' :: indentedMembers depth ms

end

/-- The indented text of a value. -/
def indented (v : Json) : String := String.ofList (v.indentedChars 0)

end Json

end ModelProbe
