import ModelProbe.Protocol
import ModelProbe.Setting
import ModelProbe.Text.Digits
/-!
# Settings as values of a type

A scalar is read as the type that is asked for wherever it makes sense: numbers and flags as
texts, words and numbers as flags, texts and flags as numbers.
-/

namespace ModelProbe.Setting

/-- The text of a flag. -/
def flagText (b : Bool) : String := if b then "true" else "false"

/-- The words for yes. -/
def yesWords : List String := ["1", "true", "on", "yes"]

/-- The words for no. -/
def noWords : List String := ["0", "false", "off", "no"]

/-- A scalar as a text. -/
def asText? : Setting → Option String
  | text s => some s
  | whole n => some (toString n)
  | real x => some x.plainText
  | flag b => some (flagText b)
  | _ => none

/-- A scalar as a flag: a number other than zero is a yes. -/
def asFlag? : Setting → Option Bool
  | flag b => some b
  | whole n => some (n != 0)
  | real x => some (!x.isZero)
  | text s =>
    let word := Protocol.lowerAscii s
    if yesWords.contains word then some true
    else if noWords.contains word then some false
    else none
  | _ => none

/-- The least number that is too large for 64 bits. -/
def naturalLimit : Nat := Nat.pow 2 64

/-- A scalar as a natural number of 64 bits; a real number is rounded and cut to the range. -/
def asNatural? : Setting → Option Nat
  | whole n => if 0 ≤ n && n.toNat < naturalLimit then some n.toNat else none
  | real x => some (x.clamp (naturalLimit - 1))
  | flag b => some b.toNat
  | text s =>
    let word := Protocol.lowerAscii s
    if (yesWords.drop 1).contains word then some 1
    else if (noWords.drop 1).contains word then some 0
    else Text.readBelow? naturalLimit s.toList
  | _ => none

/-- A scalar as a port number. -/
def asPort? (v : Setting) : Option UInt16 :=
  v.asNatural?.bind fun n => if n < 65536 then some n.toUInt16 else none

/-- A value that may be absent: nothing is none, and anything else must convert. -/
def asOptional? {α : Type} (f : Setting → Option α) : Setting → Option (Option α)
  | nothing => some none
  | v => (f v).map some

/-- The members of a table, by name. -/
def asTable? : Setting → Option (List (String × Setting))
  | table ms => some ms
  | _ => none

/-- A list whose items convert. -/
def asList? {α : Type} (f : Setting → Option α) : Setting → Option (List α)
  | list vs => vs.mapM f
  | _ => none

/-- The values of a record's fields, by their names, or by position when the record is written as
a list; what is absent has no value. -/
def fieldValues? (names : List String) : Setting → Option (List (Option Setting))
  | table ms => some (names.map fun name => SortedMap.lookup name ms)
  | list vs => some (names.mapIdx fun i _ => vs[i]?)
  | _ => none

/-- A field that may be absent and then has a default. -/
def fieldOr? {α : Type} (default : α) (f : Setting → Option α) : Option Setting → Option α
  | none => some default
  | some v => f v

end ModelProbe.Setting
