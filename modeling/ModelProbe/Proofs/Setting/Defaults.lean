import ModelProbe.Proofs.Setting.Layer
/-!
# A layer over defaults

A section of defaults is a table of scalars. A layer that is put over it says what it says alone,
and the defaults stand where it is silent, unless it puts something else in the section's place.

* `put_congr`: what is put into a value depends on its members and items only.
* `Fills.put`: one value put over both keeps them together.
* `fills_addLayer`: and so does a layer.
-/

namespace ModelProbe.Setting

/-! ## Members -/

/-- What is found after a member was replaced or added. -/
theorem lookup_withMember (key k : String) (v : Setting) (ms : List (String × Setting)) :
    SortedMap.lookup k (withMember key v ms) =
      if k = key then some v else SortedMap.lookup k ms := by
  by_cases h : k = key
  · rw [if_pos h, h]
    exact SortedMap.lookup_insertEntry_self key v ms
  · rw [if_neg h]
    exact SortedMap.lookup_insertEntry_of_ne _ h v ms

/-- Putting a value below a member. -/
theorem put_name (v upper : Setting) (key : String) (path : List Step) :
    v.put (.name key :: path) upper =
      table (withMember key ((memberOf key v.members).put path upper) v.members) := by
  rw [put, update]
  rfl

/-! ## Values that take a layer alike -/

/-- Whether the value is neither a list nor a table. -/
def isScalar : Setting → Bool
  | list _ => false
  | table _ => false
  | _ => true

/-- Two values with the same members and the same items. -/
def Alike (v w : Setting) : Prop := v.members = w.members ∧ v.items = w.items

/-- A scalar has nothing inside it. -/
theorem alike_nothing_of_isScalar {v : Setting} (h : v.isScalar = true) : v.Alike nothing := by
  cases v with
  | list vs => cases h
  | table ms => cases h
  | _ => exact ⟨rfl, rfl⟩

/-- A scalar takes the place of what is there. -/
theorem overlay_of_isScalar {v : Setting} (h : v.isScalar = true) (lower : Setting) :
    lower.overlay v = v := by
  cases v with
  | list vs => cases h
  | table ms => cases h
  | _ => rw [overlay]; rintro ms ⟨⟩

/-- What is put into a value depends on its members and items only. -/
theorem put_congr {v w : Setting} (h : v.Alike w) (path : List Step) (upper : Setting) :
    v.put path upper = w.put path upper := by
  cases path with
  | nil =>
    show v.overlay upper = w.overlay upper
    cases upper with
    | table ms => rw [overlay, overlay, h.1]
    | _ => rfl
  | cons step path =>
    cases step with
    | name key => rw [put_name, put_name, h.1]
    | position i => rw [put, put, update, update, h.2]

/-! ## A table over defaults -/

/-- All the defaults are scalars. -/
def Scalars (defaults : List (String × Setting)) : Prop :=
  ∀ key v, SortedMap.lookup key defaults = some v → v.isScalar = true

/-- The second members are the first with the defaults where these are silent. -/
def Supplied (defaults ms full : List (String × Setting)) : Prop :=
  ∀ key, SortedMap.lookup key full = (SortedMap.lookup key ms).or (SortedMap.lookup key defaults)

section Supplied

variable {defaults ms full : List (String × Setting)}

/-- Members may be replaced or added on both sides. -/
theorem Supplied.replace (h : Supplied defaults ms full) (key : String) (v : Setting) :
    Supplied defaults (withMember key v ms) (withMember key v full) := by
  intro k
  rw [lookup_withMember, lookup_withMember, h k]
  by_cases hk : k = key
  · rw [if_pos hk, if_pos hk, Option.some_or]
  · rw [if_neg hk, if_neg hk]

/-- A default takes a layer as an absent member does. -/
theorem Supplied.memberOf_alike (h : Supplied defaults ms full)
    (hscalars : Scalars defaults) (key : String) :
    (memberOf key full).Alike (memberOf key ms) := by
  rw [memberOf, memberOf, h key]
  cases SortedMap.lookup key ms with
  | some v => exact ⟨rfl, rfl⟩
  | none =>
    cases hdefault : SortedMap.lookup key defaults with
    | none => exact ⟨rfl, rfl⟩
    | some d => exact alike_nothing_of_isScalar (hscalars key d hdefault)

/-- A table may be laid over both sides. -/
theorem Supplied.under (hscalars : Scalars defaults) (upper : List (String × Setting)) :
    ∀ {ms full : List (String × Setting)}, Supplied defaults ms full →
      Supplied defaults (overlayMembers ms upper) (overlayMembers full upper) := by
  induction upper with
  | nil => intro ms full h; rwa [overlayMembers, overlayMembers]
  | cons e upper ih =>
    intro ms full h
    have hvalue : (memberOf e.1 full).overlay e.2 = (memberOf e.1 ms).overlay e.2 :=
      put_congr (h.memberOf_alike hscalars e.1) [] e.2
    rw [overlayMembers, overlayMembers, hvalue]
    exact ih (h.replace e.1 _)

end Supplied

/-! ## A section over defaults -/

/-- How a section that a layer gives, if it does, looks when the layer is over a table of
defaults. -/
inductive Fills (defaults : List (String × Setting)) : Option Setting → Option Setting → Prop
  /-- The layer does not give the section. -/
  | absent : Fills defaults none (some (table defaults))
  /-- The layer gives a table. -/
  | supplied {ms full : List (String × Setting)} (h : Supplied defaults ms full) :
      Fills defaults (some (table ms)) (some (table full))
  /-- The layer gives something else, or has replaced the defaults on the way. -/
  | replaced (v : Setting) : Fills defaults (some v) (some v)

section Fills

variable {defaults : List (String × Setting)}

/-- One value put into a table on both sides. -/
theorem Supplied.fills_put {ms full : List (String × Setting)} (h : Supplied defaults ms full)
    (hscalars : Scalars defaults) (path : List Step) (upper : Setting) :
    Fills defaults (some ((table ms).put path upper)) (some ((table full).put path upper)) := by
  cases path with
  | nil =>
    show Fills defaults (some ((table ms).overlay upper)) (some ((table full).overlay upper))
    cases upper with
    | table us =>
      rw [overlay, overlay]
      exact .supplied (Supplied.under hscalars us h)
    | _ => exact .replaced _
  | cons step path =>
    cases step with
    | name key =>
      rw [put_name, put_name]
      have hvalue : (memberOf key full).put path upper = (memberOf key ms).put path upper :=
        put_congr (h.memberOf_alike hscalars key) path upper
      show Fills defaults (some (table (withMember key ((memberOf key ms).put path upper) ms)))
        (some (table (withMember key ((memberOf key full).put path upper) full)))
      rw [hvalue]
      exact .supplied (h.replace key _)
    | position i =>
      -- A table has no items, so a list takes the place of either.
      rw [put, put, update, update]
      exact .replaced _

/-- **One value that is put into a section keeps it together with the section over defaults.** -/
theorem Fills.put {own full : Option Setting} (h : Fills defaults own full)
    (hscalars : Scalars defaults) (path : List Step) (upper : Setting) :
    Fills defaults (some ((own.getD nothing).put path upper))
      (some ((full.getD nothing).put path upper)) := by
  cases h with
  | absent =>
    -- Nothing takes a value as the empty table does.
    have halike : nothing.Alike (table []) := ⟨rfl, rfl⟩
    have hempty : nothing.put path upper = (table []).put path upper :=
      put_congr halike path upper
    have hsupplied : Supplied defaults [] defaults := fun key => rfl
    rw [Option.getD_none, hempty]
    exact hsupplied.fills_put hscalars path upper
  | supplied h => exact h.fills_put hscalars path upper
  | replaced v => exact .replaced _

/-- A list over defaults is the layer's own. -/
theorem Fills.eq_of_list {own : Option Setting} {vs : List Setting}
    (h : Fills defaults own (some (list vs))) : own = some (list vs) := by
  cases h
  rfl

/-- What stands at a top name after a value was put at the path of a key. -/
theorem lookup_put_key (v upper : Setting) {key name : String} {path : List Step}
    (hkey : pathOfKey key = .name name :: path) (k : String) :
    SortedMap.lookup k (v.put (pathOfKey key) upper).members =
      if k = name then some (((SortedMap.lookup name v.members).getD nothing).put path upper)
      else SortedMap.lookup k v.members := by
  rw [hkey, put_name]
  exact lookup_withMember name k _ v.members

/-- A layer makes a table of a table. -/
theorem table_members_addLayer (layer : List (String × Setting)) :
    ∀ {v : Setting}, table v.members = v → table (v.addLayer layer).members = v.addLayer layer := by
  induction layer with
  | nil => exact fun h => h
  | cons e layer ih =>
    intro v _
    obtain ⟨name, path, hpath, -⟩ := pathOfKey_cases e.1
    rw [addLayer_cons, hpath, put_name]
    exact ih rfl

/-- **A layer over defaults says what it says alone**, with the defaults where it is silent. -/
theorem fills_addLayer (layer : List (String × Setting)) (hscalars : Scalars defaults)
    (k : String) :
    ∀ {own full : Setting},
      Fills defaults (SortedMap.lookup k own.members) (SortedMap.lookup k full.members) →
      Fills defaults (SortedMap.lookup k (own.addLayer layer).members)
        (SortedMap.lookup k (full.addLayer layer).members) := by
  induction layer with
  | nil => exact fun h => h
  | cons e layer ih =>
    intro own full h
    obtain ⟨name, path, hpath, -⟩ := pathOfKey_cases e.1
    rw [addLayer_cons, addLayer_cons]
    refine ih ?_
    rw [lookup_put_key own e.2 hpath, lookup_put_key full e.2 hpath]
    by_cases hk : k = name
    · rw [if_pos hk, if_pos hk, ← hk]
      exact h.put hscalars path e.2
    · rw [if_neg hk, if_neg hk]
      exact h

end Fills

end ModelProbe.Setting
