import ModelProbe.Number.Shortest
import ModelProbe.SortedMap
/-!
# Layered settings

A setting is a value as files and the environment give it: a scalar, a list or a table. Layers are
put over one another: a table goes into the table that is there, name by name, and anything else
takes the place of what is there.

* `Setting.put`: puts a value at a path of names and list positions, which is made as needed.
-/

namespace ModelProbe

/-- A value of a settings file, a catalog file or the environment. The members of a table stand by
increasing name, each name once. -/
inductive Setting
  | nothing
  | flag (b : Bool)
  | whole (n : Int)
  | real (x : Binary64)
  | text (s : String)
  | list (items : List Setting)
  | table (members : List (String × Setting))
  deriving Repr, Inhabited

namespace Setting

/-- A step from a value to a value inside it. -/
inductive Step
  /-- To a member of a table. -/
  | name (key : String)
  /-- To an item of a list; negative positions count from its end. -/
  | position (i : Int)
  deriving DecidableEq, Repr

/-- The members of a table; what is no table has none. -/
def members : Setting → List (String × Setting)
  | table ms => ms
  | _ => []

/-- The items of a list; what is no list has none. -/
def items : Setting → List Setting
  | list vs => vs
  | _ => []

/-- The value of a member, or nothing. -/
def memberOf (key : String) (ms : List (String × Setting)) : Setting :=
  (SortedMap.lookup key ms).getD nothing

/-- The members with one replaced or added. -/
def withMember (key : String) (v : Setting) (ms : List (String × Setting)) :
    List (String × Setting) :=
  SortedMap.insertEntry (fun _ new => new) key v ms

mutual

/-- What two layers say together about one value. -/
def overlay (lower : Setting) : Setting → Setting
  | table ms => table (overlayMembers lower.members ms)
  | upper => upper

/-- What two layers say together about the members of one table. -/
def overlayMembers (lower : List (String × Setting)) :
    List (String × Setting) → List (String × Setting)
  | [] => lower
  | (key, v) :: rest =>
    overlayMembers (withMember key (overlay (memberOf key lower) v) lower) rest

end

/-- A list that is long enough for a position, and that position counted from its start. -/
def reach (i : Int) (vs : List Setting) : List Setting × Nat :=
  if 0 ≤ i then (vs ++ List.replicate (i.toNat + 1 - vs.length) nothing, i.toNat)
  else (List.replicate (i.natAbs - vs.length) nothing ++ vs, vs.length - i.natAbs)

/-- Changes the value at the end of a path. What stands in the way is replaced by the table or the
list that the path needs. -/
def update (f : Setting → Setting) : List Step → Setting → Setting
  | [], v => f v
  | .name key :: path, v =>
    table (withMember key (update f path (memberOf key v.members)) v.members)
  | .position i :: path, v =>
    let (vs, place) := reach i v.items
    list (vs.modify place (update f path))

/-- Puts a value at the end of a path, over what is there. -/
def put (v : Setting) (path : List Step) (upper : Setting) : Setting :=
  v.update (fun lower => lower.overlay upper) path

end Setting

end ModelProbe
