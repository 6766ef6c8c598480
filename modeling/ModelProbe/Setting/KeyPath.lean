import ModelProbe.Setting
import ModelProbe.Text.Digits
/-!
# Paths in keys

A key at the top of a settings file may be a path: names of ASCII letters, digits, underscores and
hyphens with points between them, and list positions in square brackets. A key that is no such
path is one name as it stands.
-/

namespace ModelProbe.Setting

/-- Whether a name in a path may have this character. -/
def isPathChar (c : Char) : Bool :=
  c.isAlphanum || c == '_' || c == '-'

/-- Whether the character is a space or a tab. -/
def isGap (c : Char) : Bool := c == ' ' || c == '\t'

/-- Reads the name that a text begins with. -/
def readPathName? (s : List Char) : Option (String × List Char) :=
  let name := s.takeWhile isPathChar
  if name.isEmpty then none else some (String.ofList name, s.dropWhile isPathChar)

/-- Reads a list position, after its opening bracket, and the closing one. -/
def readPosition? (s : List Char) : Option (Int × List Char) :=
  let s := s.dropWhile isGap
  let (negative, s) := match s with
    | '-' :: rest => (true, rest)
    | _ => (false, s)
  let digits := s.takeWhile Char.isDigit
  let n := Text.digitsValue digits
  if digits.isEmpty || (if negative then Nat.pow 2 63 < n else Nat.pow 2 63 ≤ n) then none
  else
    match (s.dropWhile Char.isDigit).dropWhile isGap with
    | ']' :: rest => some (if negative then -n else n, rest)
    | _ => none

/-- Reads the steps after the first name; each takes up at least one character of `fuel`. -/
def readSteps? : (fuel : Nat) → List Char → Option (List Step)
  | _, [] => some []
  | 0, _ => none
  | fuel + 1, '.' :: rest => do
    let (name, rest) ← readPathName? rest
    return .name name :: (← readSteps? fuel rest)
  | fuel + 1, '[' :: rest => do
    let (i, rest) ← readPosition? rest
    return .position i :: (← readSteps? fuel rest)
  | _, _ => none

/-- The path that a key writes. -/
def readPath? (key : List Char) : Option (List Step) := do
  let (name, rest) ← readPathName? key
  return .name name :: (← readSteps? rest.length rest)

/-- The path that a key at the top of a file stands for. -/
def pathOfKey (key : String) : List Step :=
  (readPath? key.toList).getD [.name key]

/-- Puts a layer, given by its keys at the top, over the layers below it. -/
def addLayer (lower : Setting) (layer : List (String × Setting)) : Setting :=
  layer.foldl (fun v (key, upper) => v.put (pathOfKey key) upper) lower

/-- The value of a single layer. -/
def ofLayer (layer : List (String × Setting)) : Setting :=
  addLayer (table []) layer

end ModelProbe.Setting
