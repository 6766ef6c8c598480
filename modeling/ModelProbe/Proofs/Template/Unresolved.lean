import Mathlib.Algebra.Order.BigOperators.Group.List
import Mathlib.Algebra.Order.Group.Nat
import ModelProbe.Proofs.SortedMap
import ModelProbe.Proofs.Template.Segments
/-!
# Unresolved placeholders

The names that a template is warned about are found by a scan of their own. It finds the
placeholders that filling finds, so a name is reported exactly when the template would be filled
otherwise if the name had a value.

* `Splits.names`: the scan finds the names of the segments.
* `listsFirst_unresolved`: of these the unbound ones are listed, each once and by its first place.
* `mem_unresolved_iff_fill`: what a listed name means for filling.
-/

namespace ModelProbe.Template

/-! ## The names of a template -/

theorem names_of_ne {c : Char} (hc : c ≠ '$') (cs : List Char) : names (c :: cs) = names cs := by
  rw [names]
  · rintro rest rfl
    exact absurd rfl hc
  · exact hc

theorem names_placeholder {after name rest : List Char} (hdollar : ∀ more, after ≠ '$' :: more)
    (h : placeholder? after = some (name, rest)) : names ('$' :: after) = name :: names after := by
  rw [names, h]
  exact hdollar

theorem names_lone {after : List Char} (hdollar : ∀ more, after ≠ '$' :: more)
    (h : placeholder? after = none) : names ('$' :: after) = names after := by
  rw [names, h]
  exact hdollar

/-- Text without `$` has no placeholders. -/
theorem names_append_of_plain {s : List Char} (hs : '$' ∉ s) (rest : List Char) :
    names (s ++ rest) = names rest := by
  induction s with
  | nil => rfl
  | cons c s ih =>
    rw [List.mem_cons, not_or] at hs
    rw [List.cons_append, names_of_ne (Ne.symm hs.1), ih hs.2]

/-- The scan goes on inside a placeholder, where it finds nothing. -/
theorem Reads.names {form name rest : List Char} (h : Reads form name rest) :
    names ('$' :: (form ++ rest)) = name :: names rest := by
  rw [names_placeholder h.not_dollar h.placeholder, names_append_of_plain h.plain]

/-- **The scan goes on after the first segment.** -/
theorem names_chars_append {segment : Segment} {rest : List Char} (h : segment.Fits rest) :
    (names (segment.chars ++ rest)).map String.ofList =
      segment.name?.toList ++ (names rest).map String.ofList := by
  cases segment with
  | text s =>
    show (names (s ++ rest)).map String.ofList = (names rest).map String.ofList
    rw [names_append_of_plain h.2.1]
  | dollars =>
    show (names ('$' :: '$' :: rest)).map String.ofList = (names rest).map String.ofList
    rw [names]
  | braced name => exact congrArg (List.map String.ofList) (reads_braced h rest).names
  | bare name => exact congrArg (List.map String.ofList) (reads_bare h).names
  | lone =>
    exact congrArg (List.map String.ofList)
      (names_lone h.1 ((placeholder?_eq_none_iff rest).2 h.2))

/-- The names of the placeholders among some segments, as often as they stand there. -/
def placeholders (segments : List Segment) : List String := segments.filterMap Segment.name?

/-- The scan finds the placeholders among the segments of a template. -/
theorem Splits.names {segments : List Segment} {t : List Char} (h : Splits segments t) :
    (names t).map String.ofList = placeholders segments := by
  induction h with
  | nil => rfl
  | @cons segment segments rest fits _ ih =>
    rw [names_chars_append fits, ih]
    unfold placeholders
    cases hname : segment.name? with
    | none => rw [List.filterMap_cons_none hname]; rfl
    | some name => rw [List.filterMap_cons_some hname]; rfl

/-! ## The unbound ones among them -/

/-- The list has the unbound ones among some names, each once, by the first place where it
stands. -/
structure ListsFirst (vars : Bindings) (names listed : List String) : Prop where
  mem_iff : ∀ name, name ∈ listed ↔ name ∈ names ∧ vars.get? name = none
  ordered : listed.Pairwise fun a b => names.idxOf a < names.idxOf b

/-- The list with a further name, unless that is bound or listed. -/
def listName (vars : Bindings) (listed : List String) (name : String) : List String :=
  if vars.contains name || listed.contains name then listed else listed ++ [name]

/-- A bound or listed name changes nothing. -/
theorem listName_of_known {vars : Bindings} {listed : List String} {name : String}
    (h : (∃ value, vars.get? name = some value) ∨ name ∈ listed) :
    listName vars listed name = listed := by
  rw [listName, if_pos]
  rw [Bool.or_eq_true, SortedMap.contains, Option.isSome_iff_exists, List.contains_iff_mem]
  exact h

/-- A new name without a value comes last. -/
theorem listName_of_new {vars : Bindings} {listed : List String} {name : String}
    (hget : vars.get? name = none) (hnew : name ∉ listed) :
    listName vars listed name = listed ++ [name] := by
  rw [listName, if_neg]
  rw [Bool.or_eq_true, SortedMap.contains, hget, List.contains_iff_mem]
  rintro (h | h)
  · cases h
  · exact hnew h

/-- What is listed has its first place among the names before. -/
theorem ListsFirst.ordered_concat {vars : Bindings} {names listed : List String}
    (h : ListsFirst vars names listed) (name : String) :
    listed.Pairwise fun a b => (names ++ [name]).idxOf a < (names ++ [name]).idxOf b := by
  refine h.ordered.imp_of_mem fun {a b} ha hb hab => ?_
  rw [List.idxOf_append_of_mem ((h.mem_iff a).1 ha).1,
    List.idxOf_append_of_mem ((h.mem_iff b).1 hb).1]
  exact hab

/-- After a bound or listed name the same names are listed. -/
theorem ListsFirst.known {vars : Bindings} {names listed : List String}
    (h : ListsFirst vars names listed) {name : String}
    (hknown : (∃ value, vars.get? name = some value) ∨ name ∈ listed) :
    ListsFirst vars (names ++ [name]) listed := by
  refine ⟨fun other => ?_, h.ordered_concat name⟩
  rw [h.mem_iff, List.mem_append, List.mem_singleton]
  constructor
  · rintro ⟨hmem, hget⟩
    exact ⟨.inl hmem, hget⟩
  · rintro ⟨hmem | rfl, hget⟩
    · exact ⟨hmem, hget⟩
    · rcases hknown with ⟨value, hvalue⟩ | hlisted
      · rw [hget] at hvalue
        cases hvalue
      · exact (h.mem_iff other).1 hlisted

/-- After a new name without a value this one comes last. -/
theorem ListsFirst.new {vars : Bindings} {names listed : List String}
    (h : ListsFirst vars names listed) {name : String} (hget : vars.get? name = none)
    (hnot : name ∉ listed) : ListsFirst vars (names ++ [name]) (listed ++ [name]) := by
  have hnew : name ∉ names := fun hmem => hnot ((h.mem_iff name).2 ⟨hmem, hget⟩)
  refine ⟨fun other => ?_, ?_⟩
  · rw [List.mem_append, List.mem_singleton, List.mem_append, List.mem_singleton, h.mem_iff]
    constructor
    · rintro (⟨hmem, hother⟩ | rfl)
      · exact ⟨.inl hmem, hother⟩
      · exact ⟨.inr rfl, hget⟩
    · rintro ⟨hmem | rfl, hother⟩
      · exact .inl ⟨hmem, hother⟩
      · exact .inr rfl
  · rw [List.pairwise_append]
    refine ⟨h.ordered_concat name, List.pairwise_singleton _ _, fun a ha b hb => ?_⟩
    obtain rfl := List.mem_singleton.1 hb
    have hmem := ((h.mem_iff a).1 ha).1
    calc (names ++ [b]).idxOf a = names.idxOf a := List.idxOf_append_of_mem hmem
      _ < names.length := List.idxOf_lt_length_iff.2 hmem
      _ ≤ (names ++ [b]).idxOf b := by
        rw [List.idxOf_append_of_notMem hnew]
        exact Nat.le_add_right _ _

/-- **One more name.** -/
theorem ListsFirst.listName {vars : Bindings} {names listed : List String}
    (h : ListsFirst vars names listed) (name : String) :
    ListsFirst vars (names ++ [name]) (listName vars listed name) := by
  by_cases hlisted : name ∈ listed
  · rw [listName_of_known (.inr hlisted)]
    exact h.known (.inr hlisted)
  · cases hget : vars.get? name with
    | some value =>
      rw [listName_of_known (.inl ⟨value, hget⟩)]
      exact h.known (.inl ⟨value, hget⟩)
    | none =>
      rw [listName_of_new hget hlisted]
      exact h.new hget hlisted

/-- Names one after another. -/
theorem ListsFirst.foldl {vars : Bindings} (rest : List String) :
    ∀ {names listed : List String}, ListsFirst vars names listed →
      ListsFirst vars (names ++ rest) (rest.foldl (Template.listName vars) listed) := by
  induction rest with
  | nil =>
    intro names listed h
    rwa [List.append_nil]
  | cons name rest ih =>
    intro names listed h
    have hrest := ih (h.listName name)
    rwa [List.append_assoc] at hrest

/-- The names that are reported are the unbound placeholders, by their first places. -/
theorem listsFirst_unresolved (vars : Bindings) {segments : List Segment} {t : List Char}
    (h : Splits segments t) : ListsFirst vars (placeholders segments) (unresolved vars t) := by
  have hempty : ListsFirst vars [] [] := ⟨by simp, .nil⟩
  have hall := hempty.foldl ((names t).map String.ofList)
  rw [List.nil_append] at hall
  rw [← h.names]
  exact hall

/-! ## What a value would change -/

/-- A placeholder without a value stays, and it has a `$`. -/
theorem Segment.length_filled_pos {vars : Bindings} {segment : Segment} {name : String}
    (hname : segment.name? = some name) (hget : vars.get? name = none) :
    0 < (segment.filled vars).length := by
  rw [filled_of_name? hname, hget, Option.elim_none]
  cases segment with
  | text _ => cases hname
  | _ => exact Nat.succ_pos _

/-- A value for a name leaves the segments of other names as they are. -/
theorem Segment.filled_insert {vars : Bindings} {segment : Segment} {name : String}
    (hname : segment.name? ≠ some name) (value : String) :
    segment.filled (vars.insert name value) = segment.filled vars := by
  apply Segment.filled_congr
  intro other hother
  rw [SortedMap.get?_insert, if_neg]
  intro hcompare
  rw [Std.LawfulEqCmp.eq_of_compare hcompare] at hother
  exact hname hother

/-- **An empty value shortens a template** in which its name is a placeholder's. -/
theorem length_filled_insert_lt {vars : Bindings} {name : String} (hget : vars.get? name = none)
    {segments : List Segment} (hmem : name ∈ placeholders segments) :
    (segments.flatMap (Segment.filled (vars.insert name ""))).length <
      (segments.flatMap (Segment.filled vars)).length := by
  have hempty : ∀ {segment : Segment}, segment.name? = some name →
      segment.filled (vars.insert name "") = [] := by
    intro segment hname
    rw [Segment.filled_of_name? hname, SortedMap.get?_insert, if_pos Std.ReflCmp.compare_self]
    rfl
  rw [List.length_flatMap, List.length_flatMap]
  apply List.sum_lt_sum
  · intro segment _
    by_cases hname : segment.name? = some name
    · rw [hempty hname]
      exact Nat.zero_le _
    · rw [Segment.filled_insert hname]
  · obtain ⟨segment, hsegment, hname⟩ := List.mem_filterMap.1 hmem
    refine ⟨segment, hsegment, ?_⟩
    rw [hempty hname]
    exact Segment.length_filled_pos hname hget

/-- A value for a name changes the filled template exactly when the name is that of a placeholder
without a value. -/
theorem exists_fill_ne_iff {vars : Bindings} {name : String} (hget : vars.get? name = none)
    {segments : List Segment} {t : List Char} (h : Splits segments t) :
    (∃ value, fill (vars.insert name value) t ≠ fill vars t) ↔ name ∈ placeholders segments := by
  constructor
  · rintro ⟨value, hne⟩
    rw [h.fill, h.fill] at hne
    apply Decidable.byContradiction
    intro hnot
    apply hne
    apply List.flatMap_congr
    intro segment hsegment
    apply Segment.filled_insert
    intro hname
    exact hnot (List.mem_filterMap.2 ⟨segment, hsegment, hname⟩)
  · intro hmem
    refine ⟨"", fun heq => ?_⟩
    have hlt := length_filled_insert_lt hget hmem
    rw [← h.fill, ← h.fill, heq] at hlt
    exact Nat.lt_irrefl _ hlt

/-- **Unresolved placeholders.** A name is reported exactly when it has no value and some value
would change the filled template; each reported name is reported once, and they stand in the order
in which the template first has them. -/
theorem mem_unresolved_iff_fill (vars : Bindings) (template : String) :
    (∀ name, name ∈ unresolved vars template.toList ↔
        vars.get? name = none ∧
          ∃ value, Bindings.fill (vars.insert name value) template ≠ vars.fill template) ∧
      (unresolved vars template.toList).Nodup ∧
      ∃ segments, Splits segments template.toList ∧
        (∀ name ∈ unresolved vars template.toList, name ∈ placeholders segments) ∧
        (unresolved vars template.toList).Pairwise fun a b =>
          (placeholders segments).idxOf a < (placeholders segments).idxOf b := by
  obtain ⟨segments, hsplits⟩ := exists_splits template.toList
  have hlists := listsFirst_unresolved vars hsplits
  have hfill : ∀ others : Bindings, others.fill template ≠ vars.fill template ↔
      fill others template.toList ≠ fill vars template.toList := fun others => by
    rw [Bindings.fill, Bindings.fill, ne_eq, String.ofList_inj]
  refine ⟨fun name => ?_, ?_, segments, hsplits, fun name hname => ((hlists.mem_iff name).1 hname).1,
    hlists.ordered⟩
  · rw [hlists.mem_iff, and_comm]
    simp only [hfill]
    exact and_congr_right fun hget => (exists_fill_ne_iff hget hsplits).symm
  · refine hlists.ordered.imp fun {a b} hab => ?_
    rintro rfl
    exact Nat.lt_irrefl _ hab

end ModelProbe.Template
