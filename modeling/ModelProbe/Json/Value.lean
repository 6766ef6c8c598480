import ModelProbe.Number.Shortest
import ModelProbe.SortedMap
/-!
# JSON values

A number is an integer when it is written as one and fits in 64 bits, and a binary
floating-point number otherwise. The members of an object stand by increasing name, each name
once.
-/

namespace ModelProbe

/-- A JSON number. -/
inductive JsonNumber
  | integer (n : Int)
  | real (x : Finite64)
  deriving DecidableEq, Repr, Inhabited

/-- A JSON value. -/
inductive Json
  | null
  | bool (b : Bool)
  | number (n : JsonNumber)
  | string (s : String)
  | array (items : List Json)
  | object (members : List (String × Json))
  deriving Repr, Inhabited

/-- The members of an object, by name. -/
abbrev JsonObject := SortedMap String Json

namespace Json

/-- The object with these members; of two with one name the later counts. -/
def ofMembers (members : List (String × Json)) : Json :=
  object (SortedMap.ofList members).toList

/-- The value of a member. -/
def member? (name : String) : Json → Option Json
  | object members => SortedMap.lookup name members
  | _ => none

/-- The characters of a string value. -/
def asString? : Json → Option String
  | string s => some s
  | _ => none

mutual

/-- Whether two values are the same. -/
def same : Json → Json → Bool
  | null, null => true
  | bool a, bool b => a == b
  | number a, number b => a == b
  | string a, string b => a == b
  | array a, array b => sameItems a b
  | object a, object b => sameMembers a b
  | _, _ => false

/-- Whether two lists of values are the same. -/
def sameItems : List Json → List Json → Bool
  | [], [] => true
  | a :: as, b :: bs => same a b && sameItems as bs
  | _, _ => false

/-- Whether two lists of members are the same. -/
def sameMembers : List (String × Json) → List (String × Json) → Bool
  | [], [] => true
  | (k, a) :: as, (l, b) :: bs => k == l && same a b && sameMembers as bs
  | _, _ => false

end

instance : BEq Json := ⟨same⟩

end Json

end ModelProbe
