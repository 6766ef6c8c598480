import ModelProbe.Json.Reader
/-!
# Finding a key in a JSON value

The search goes level by level: it looks into every member of an object and into the first item
of an array, and takes the first object of a level that has the key.

* `total_children_lt`: the values of the next level are smaller, so the search ends.
-/

namespace ModelProbe.Json

/-- The values one step below: the members of an object, the first item of an array. -/
def children : Json → List Json
  | object members => members.map Prod.snd
  | array (first :: _) => [first]
  | _ => []

/-- The sum of the sizes of some values. -/
noncomputable def total : List Json → Nat
  | [] => 0
  | v :: level => sizeOf v + total level

theorem total_cons (v : Json) (level : List Json) :
    total (v :: level) = sizeOf v + total level := rfl

theorem total_append (a b : List Json) : total (a ++ b) = total a + total b := by
  induction a with
  | nil => simp [total]
  | cons v a ih => simp only [List.cons_append, total_cons, ih]; omega

theorem total_children_lt (v : Json) : total v.children < sizeOf v := by
  cases v with
  | object members =>
    simp only [children, object.sizeOf_spec]
    induction members with
    | nil => simp [total]
    | cons m rest ih =>
      obtain ⟨k, v⟩ := m
      simp only [List.map_cons, total_cons, List.cons.sizeOf_spec, Prod.mk.sizeOf_spec]
      omega
  | array items =>
    cases items with
    | nil => simp [children, total]
    | cons first rest => simp [children, total]; omega
  | null => simp [children, total]
  | bool b => simp [children, total]
  | number n =>
    simp only [children, total, number.sizeOf_spec]
    omega
  | string s =>
    simp only [children, total, string.sizeOf_spec]
    omega

/-- The values one step below those of a level. -/
def nextLevel (level : List Json) : List Json := level.flatMap children

theorem total_nextLevel (level : List Json) :
    total (nextLevel level) + level.length ≤ total level := by
  unfold nextLevel
  induction level with
  | nil => simp [total]
  | cons v rest ih =>
    have := total_children_lt v
    simp only [List.flatMap_cons, total_append, total_cons, List.length_cons]
    omega

/-- The value under the key in the first object that has it, from this level on. -/
def locateFrom? (key : String) (level : List Json) : Option Json :=
  match level.findSome? (member? key) with
  | some v => some v
  | none => if level = [] then none else locateFrom? key (nextLevel level)
termination_by total level
decreasing_by
  have := total_nextLevel level
  have : 0 < level.length := List.length_pos_iff.2 ‹_›
  omega

/-- The value under the key in the shallowest object that has it. -/
def locate? (key : String) (v : Json) : Option Json := locateFrom? key [v]

end ModelProbe.Json
