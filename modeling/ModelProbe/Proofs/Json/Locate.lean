import ModelProbe.Answer.Locate
import ModelProbe.Proofs.SortedMap
/-!
# What a search for a key looks at

The search reads objects and arrays only, so the other values of a level may come and go. In
an object it looks first at the object's own members.

* `locateFrom?_eq`: one level of the search.
* `under_of_locate?`: what is found stands under the key, somewhere inside.
* `locate?_object_congr`: objects that differ in plain members only are searched alike.
-/

namespace ModelProbe.Json

/-! ## Level by level -/

/-- Nothing is found in an empty level. -/
theorem locateFrom?_nil (key : String) : locateFrom? key [] = none := by
  rw [locateFrom?]
  rfl

/-- The search finds the key in a level, or else goes on with the next level. -/
theorem locateFrom?_eq (key : String) (level : List Json) :
    locateFrom? key level =
      (level.findSome? (member? key)).or (locateFrom? key (nextLevel level)) := by
  rw [locateFrom?]
  cases level.findSome? (member? key) with
  | some v => rfl
  | none =>
    by_cases hlevel : level = []
    · subst hlevel
      exact (locateFrom?_nil key).symm
    · exact if_neg hlevel

/-! ## Plain values -/

/-- An object or an array: a value that the search goes into. -/
def isNested : Json → Bool
  | object _ | array _ => true
  | _ => false

/-- A value that is not nested has no members. -/
theorem member?_of_plain {v : Json} (hv : v.isNested = false) (key : String) :
    v.member? key = none := by
  cases v <;> first | rfl | cases hv

/-- A value that is not nested has no values below it. -/
theorem children_of_plain {v : Json} (hv : v.isNested = false) : v.children = [] := by
  cases v <;> first | rfl | cases hv

/-- The nested values of a level decide what it has under a key. -/
theorem findSome?_member?_filter (key : String) (level : List Json) :
    (level.filter isNested).findSome? (member? key) = level.findSome? (member? key) := by
  induction level with
  | nil => rfl
  | cons v level ih =>
    cases hv : v.isNested with
    | true => rw [List.filter_cons_of_pos hv, List.findSome?_cons, List.findSome?_cons, ih]
    | false =>
      rw [List.filter_cons_of_neg (by simp [hv]), List.findSome?_cons, member?_of_plain hv, ih]

/-- The nested values of a level decide what its next level is. -/
theorem nextLevel_filter (level : List Json) :
    nextLevel (level.filter isNested) = nextLevel level := by
  unfold nextLevel
  induction level with
  | nil => rfl
  | cons v level ih =>
    cases hv : v.isNested with
    | true => rw [List.filter_cons_of_pos hv, List.flatMap_cons, List.flatMap_cons, ih]
    | false =>
      rw [List.filter_cons_of_neg (by simp [hv]), List.flatMap_cons, children_of_plain hv, ih]
      rfl

/-- Levels with the same nested values are searched alike. -/
theorem locateFrom?_congr (key : String) {a b : List Json}
    (h : a.filter isNested = b.filter isNested) : locateFrom? key a = locateFrom? key b := by
  rw [locateFrom?_eq key a, locateFrom?_eq key b, ← findSome?_member?_filter key a,
    ← findSome?_member?_filter key b, ← nextLevel_filter a, ← nextLevel_filter b, h]

/-- A level of plain values has nothing under any key. -/
theorem locateFrom?_of_plain (key : String) {level : List Json}
    (h : level.filter isNested = []) : locateFrom? key level = none := by
  rw [locateFrom?_congr key (h.trans List.filter_nil.symm), locateFrom?_nil]

/-! ## Objects and arrays -/

/-- In an object, the key is looked up among the members and then below them. -/
theorem locate?_object (key : String) (members : List (String × Json)) :
    locate? key (object members) =
      (SortedMap.lookup key members).or (locateFrom? key (members.map Prod.snd)) := by
  rw [locate?, locateFrom?_eq]
  simp [member?, nextLevel, children]

/-- A value's own member is found before all others. -/
theorem locate?_of_member? {key : String} {v w : Json} (h : v.member? key = some w) :
    v.locate? key = some w := by
  rw [locate?, locateFrom?_eq, List.findSome?_cons, h]
  rfl

/-- In an array, the key is looked for in the first item. -/
theorem locate?_array (key : String) (first : Json) (others : List Json) :
    locate? key (array (first :: others)) = locate? key first := by
  rw [locate?, locateFrom?_eq]
  simp [member?, nextLevel, children, locate?]

/-- **Plain members do not disturb the search.** Two objects that agree about the key and have the
same nested members, in the same order, are searched alike. -/
theorem locate?_object_congr (key : String) {a b : List (String × Json)}
    (hkey : SortedMap.lookup key a = SortedMap.lookup key b)
    (hnested : (a.filter fun e => e.2.isNested) = b.filter fun e => e.2.isNested) :
    locate? key (object a) = locate? key (object b) := by
  have hvalues : ∀ l : List (String × Json),
      (l.map Prod.snd).filter isNested = (l.filter fun e => e.2.isNested).map Prod.snd := by
    intro l
    rw [List.filter_map]
    rfl
  rw [locate?_object, locate?_object, hkey, locateFrom?_congr key]
  rw [hvalues, hvalues, hnested]

/-! ## Somewhere inside -/

/-- A value stands under the key in an object that is the value or stands somewhere inside it. -/
inductive Under (key : String) (v : Json) : Json → Prop
  | member {members : List (String × Json)} (h : SortedMap.lookup key members = some v) :
      Under key v (object members)
  | inMember {members : List (String × Json)} {name : String} {w : Json}
      (hw : (name, w) ∈ members) (h : Under key v w) : Under key v (object members)
  | inItem {items : List Json} {w : Json} (hw : w ∈ items) (h : Under key v w) :
      Under key v (array items)

variable {key : String} {v w : Json}

/-- In an object, a value stands under the key among the members or inside one of them. -/
theorem under_object_iff {members : List (String × Json)} :
    Under key v (object members) ↔
      SortedMap.lookup key members = some v ∨ ∃ e ∈ members, Under key v e.2 := by
  constructor
  · intro h
    cases h with
    | member h => exact .inl h
    | inMember hw h => exact .inr ⟨_, hw, h⟩
  · rintro (h | ⟨e, he, h⟩)
    · exact .member h
    · exact .inMember he h

/-- Nothing stands inside a plain value. -/
theorem not_under_of_plain (hw : w.isNested = false) : ¬ Under key v w := by
  intro h
  cases h <;> cases hw

/-- What stands inside a value that stands inside another stands inside that one. -/
theorem Under.trans {key' : String} {root : Json} (h : Under key v w) (hw : Under key' w root) :
    Under key v root := by
  induction hw with
  | member hw => exact .inMember (SortedMap.mem_of_lookup hw) h
  | inMember hmem _ ih => exact .inMember hmem ih
  | inItem hmem _ ih => exact .inItem hmem ih

/-- What stands inside a value of the next level stands inside a value of the level. -/
theorem under_of_mem_children {root : Json} (hw : w ∈ root.children) (h : Under key v w) :
    Under key v root := by
  cases root with
  | object members =>
    obtain ⟨e, he, rfl⟩ := List.mem_map.1 hw
    exact .inMember he h
  | array items =>
    cases items with
    | nil => cases hw
    | cons first others =>
      obtain rfl := List.mem_singleton.1 hw
      exact .inItem List.mem_cons_self h
  | _ => cases hw

/-- A value's own member stands under its name. -/
theorem under_of_member? {root : Json} (h : root.member? key = some v) : Under key v root := by
  cases root with
  | object members => exact .member h
  | _ => cases h

/-- What is found from a level on stands inside one of its values. -/
theorem under_of_locateFrom? {level : List Json} (h : locateFrom? key level = some v) :
    ∃ root ∈ level, Under key v root := by
  induction level using locateFrom?.induct key with
  | case1 level u hown =>
    rw [locateFrom?_eq, hown] at h
    obtain rfl := Option.some.inj h
    obtain ⟨root, hroot, hmember⟩ := List.exists_of_findSome?_eq_some hown
    exact ⟨root, hroot, under_of_member? hmember⟩
  | case2 hnone =>
    rw [locateFrom?_nil] at h
    cases h
  | case3 level hown _ ih =>
    rw [locateFrom?_eq, hown, Option.none_or] at h
    obtain ⟨below, hbelow, hunder⟩ := ih h
    obtain ⟨root, hroot, hchild⟩ := List.mem_flatMap.1 hbelow
    exact ⟨root, hroot, under_of_mem_children hchild hunder⟩

/-- **What is found stands under the key**, in an object somewhere inside the value. -/
theorem under_of_locate? {root : Json} (h : root.locate? key = some v) : Under key v root := by
  obtain ⟨_, hmem, hunder⟩ := under_of_locateFrom? h
  obtain rfl := List.mem_singleton.1 hmem
  exact hunder

end ModelProbe.Json
