import ModelProbe.Host.Direction
import ModelProbe.Host.Joining
import ModelProbe.Host.Mapping
import ModelProbe.Host.Punycode
import ModelProbe.Text.Category
/-!
# Domain names

A domain name is mapped, composed, split into labels and checked; a label that is not ASCII then
gets its encoded form. Labels that come encoded are decoded and checked like the others.

* `Host.domainToAscii?`: the ASCII form of a name, when it has one.
-/

namespace ModelProbe.Host

/-- What an encoded label begins with. -/
def encodedMark : List Char := ['x', 'n', '-', '-']

/-- Whether all characters are ASCII. -/
def isAsciiText (s : List Char) : Bool := s.all fun c => c.toNat < 128

/-- The ASCII characters that no domain name may hold. -/
def isForbidden (c : Char) : Bool :=
  c.toNat ≤ 32 || c.toNat == 127 || "#%/:<>?@[\\]^|".toList.contains c

/-- Whether a label begins with a mark. -/
def beginsWithMark (label : List Char) : Bool :=
  label.head?.any fun c => ((Text.categoryRanges? "M").getD []).contains c

/-- The label that is read, of a label as it is written. An encoded one must decode to a label
that is not ASCII and that mapping and composing do not change. -/
def readLabel? (label : List Char) : Option (List Char) :=
  match Text.dropPiece? encodedMark label with
  | none => some label
  | some digits =>
    (decode? digits).filter fun s =>
      !isAsciiText s && mapChars? s == some s && Text.composed s == s

/-- Whether a label may stand in a name. -/
def isLabel (label : List Char) : Bool :=
  !label.any isForbidden && (isAsciiText label || (!beginsWithMark label && joinersFit label))

/-- Whether labels may stand together: when one of them runs from right to left, the direction of
each must be clear. -/
def directionsFit (labels : List (List Char)) : Bool :=
  !labels.any runsRight || labels.all hasClearDirection

/-- A label as it is sent. -/
def writeLabel (label : List Char) : List Char :=
  if isAsciiText label then label else encodedMark ++ encode label

/-- The ASCII form of a domain name. -/
def domainToAscii? (s : List Char) : Option (List Char) := do
  let labels := Text.splitOn '.' (Text.composed (← mapChars? s))
  let readLabels ← labels.mapM readLabel?
  if readLabels.all isLabel && directionsFit readLabels then
    some (Text.joinWith ['.'] (labels.map writeLabel))
  else none

end ModelProbe.Host
