import ModelProbe.SortedMap
import ModelProbe.Text.Search
/-!
# Templates

A template is a text with placeholders `$name` and `${name}`. Filling it replaces the
placeholders whose name is bound and leaves every other one as it stands, so that a template may
be filled in several passes. `$$` stands for one `$`, and a `$` that begins nothing is kept.

* `placeholder?_length`: a placeholder takes up at least one character.
-/

namespace ModelProbe

/-- The values that placeholders stand for, by name. -/
abbrev Bindings := SortedMap String String

namespace Bindings

/-- The bindings of a query: the model's name, and the query's text under both of its names. -/
def ofQuery (model text : String) : Bindings :=
  ((SortedMap.empty.insert "model_name" model).insert "query_text" text).insert "query_input" text

end Bindings

namespace Template

/-- Whether a name may begin with this character: an ASCII letter or an underscore. -/
def isNameStart (c : Char) : Bool :=
  c == '_' || c.isAlpha

/-- Whether a name may go on with this character: also a digit. -/
def isNameChar (c : Char) : Bool :=
  c == '_' || c.isAlphanum

/-- The longest name that the text begins with, and the rest; the name may be empty. -/
def takeName : List Char → List Char × List Char
  | [] => ([], [])
  | c :: cs =>
    if isNameStart c then (c :: cs.takeWhile isNameChar, cs.dropWhile isNameChar)
    else ([], c :: cs)

/-- Whether the whole text is a name. -/
def isName : List Char → Bool
  | [] => false
  | c :: cs => isNameStart c && cs.all isNameChar

/-- The placeholder that a `$` before this text begins: its name, and the text after it. -/
def placeholder? : List Char → Option (List Char × List Char)
  | '{' :: inner =>
    match Text.splitFirst? '}' inner with
    | some (name, rest) => if isName name then some (name, rest) else none
    | none => none
  | after =>
    match takeName after with
    | ([], _) => none
    | (name, rest) => some (name, rest)

theorem length_takeName (s : List Char) :
    (takeName s).1.length + (takeName s).2.length = s.length := by
  cases s with
  | nil => rfl
  | cons c cs =>
    rw [takeName]
    split
    · have := congrArg List.length (List.takeWhile_append_dropWhile (p := isNameChar) (l := cs))
      simp only [List.length_append] at this
      simp only [List.length_cons]; omega
    · simp

theorem placeholder?_length {after name rest : List Char}
    (h : placeholder? after = some (name, rest)) : rest.length < after.length := by
  unfold placeholder? at h
  split at h
  · split at h
    · next hs =>
      split at h
      · obtain ⟨rfl, -⟩ := Text.splitFirst?_eq_some hs
        simp only [Option.some.injEq, Prod.mk.injEq] at h
        simp [h.2]; omega
      · simp at h
    · simp at h
  · split at h
    · simp at h
    · next n r hne ht =>
      simp only [Option.some.injEq, Prod.mk.injEq] at h
      obtain ⟨rfl, rfl⟩ := h
      have := length_takeName after
      rw [ht] at this
      have : 0 < n.length := List.length_pos_iff.2 hne
      simp only at *
      omega

/-- The template with every bound placeholder replaced by its value. -/
def fill (vars : Bindings) : List Char → List Char
  | [] => []
  | '$' :: '$' :: rest => '$' :: fill vars rest
  | '$' :: after =>
    match _h : placeholder? after with
    | some (name, rest) =>
      match vars.get? (String.ofList name) with
      | some value => value.toList ++ fill vars rest
      | none => '$' :: fill vars after
    | none => '$' :: fill vars after
  | c :: cs => c :: fill vars cs
termination_by s => s.length
decreasing_by
  all_goals simp only [List.length_cons]
  all_goals first
    | omega
    | have := placeholder?_length ‹_›; omega

/-- The names of the template's placeholders, in order, a name as often as it stands there. -/
def names : List Char → List (List Char)
  | [] => []
  | '$' :: '$' :: rest => names rest
  | '$' :: after =>
    match placeholder? after with
    | some (name, _) => name :: names after
    | none => names after
  | _ :: cs => names cs

/-- The names that have no value, each once, in the order of their first placeholders. -/
def unresolved (vars : Bindings) (template : List Char) : List String :=
  ((names template).map String.ofList).foldl
    (fun found name => if vars.contains name || found.contains name then found
      else found ++ [name]) []

end Template

/-- Fills a template given as a text. -/
def Bindings.fill (vars : Bindings) (template : String) : String :=
  String.ofList (Template.fill vars template.toList)

end ModelProbe
