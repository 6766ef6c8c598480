import ModelProbe.Pattern.CharSet
import ModelProbe.Text.BinaryProperty
import ModelProbe.Text.Script
/-!
# Named character classes

The classes that a pattern may name: categories, scripts, a few properties, and the ASCII classes
between colons.
-/

namespace ModelProbe.Pattern

open Text

/-- A property's name without regard to letter case, blanks, hyphens, underscores and a leading
`is`. -/
def plainName (name : List Char) : String :=
  let letters := (name.filter fun c => c.toNat < 128 && !isBlankName c).map Char.toLower
  match letters with
  | 'i' :: 's' :: rest => if rest = ['c'] then "isc" else String.ofList rest
  | _ => String.ofList letters
where
  /-- The characters that do not count in a name. -/
  isBlankName (c : Char) : Bool := c == ' ' || c == '-' || c == '_'

/-- The code points of a category, including the ones that are not in Unicode's table. -/
def category? (name : String) : Option CodeRanges :=
  match name with
  | "any" => some [(0, CharSet.maxCode)]
  | "ascii" => some [(0, 127)]
  | "assigned" => (categoryRanges? "cn").map CharSet.complement
  | _ => categoryRanges? name

/-- The code points of a property given by one name. -/
def property? (name : List Char) : Option CodeRanges :=
  let name := plainName name
  let binary := if name = "cf" ∨ name = "sc" ∨ name = "lc" then none else binaryRanges? name
  binary <|> category? name <|> scriptRanges? name

/-- The code points of a property with this value. -/
def propertyValue? (name value : List Char) : Option CodeRanges :=
  let value := plainName value
  match plainName name with
  | "gc" | "generalcategory" => category? value
  | "sc" | "script" | "scx" | "scriptextensions" => scriptRanges? value
  | _ => none

/-- The ASCII class named between colons in brackets. -/
def asciiClass? : String → Option CodeRanges
  | "alnum" => some [(48, 57), (65, 90), (97, 122)]
  | "alpha" => some [(65, 90), (97, 122)]
  | "ascii" => some [(0, 127)]
  | "blank" => some [(9, 9), (32, 32)]
  | "cntrl" => some [(0, 31), (127, 127)]
  | "digit" => some [(48, 57)]
  | "graph" => some [(33, 126)]
  | "lower" => some [(97, 122)]
  | "print" => some [(32, 126)]
  | "punct" => some [(33, 47), (58, 64), (91, 96), (123, 126)]
  | "space" => some [(9, 13), (32, 32)]
  | "upper" => some [(65, 90)]
  | "word" => some [(48, 57), (65, 90), (95, 95), (97, 122)]
  | "xdigit" => some [(48, 57), (65, 70), (97, 102)]
  | _ => none

/-- The word characters of ASCII. -/
def asciiWord : CodeRanges := [(48, 57), (65, 90), (95, 95), (97, 122)]

/-- The blanks of ASCII. -/
def asciiBlank : CodeRanges := [(9, 13), (32, 32)]

end ModelProbe.Pattern
