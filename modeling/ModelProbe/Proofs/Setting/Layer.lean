import Mathlib.Data.List.TakeWhile
import ModelProbe.Proofs.SortedMap
import ModelProbe.Setting.KeyPath
/-!
# What a single layer says

A layer is put over nothing key by key. A key that is a path of more than one step goes to another
place than its name says, so the names at the top are those that stand for themselves.

* `ofLayer_ofMap`: a layer whose keys stand for themselves is kept as it is.
* `pathOfKey_cases`: a path begins with a name that stands for itself.
* `isPlainKey_of_mem_ofLayer`: and so does every name at the top of a layer's value.
-/

namespace ModelProbe.Setting

/-! ## Tables of maps -/

section Tables

variable {α : Type}

/-- The table that has the values of a map as settings. -/
def ofMap (f : α → Setting) (m : SortedMap String α) : Setting := table (m.map f).toList

/-- Laid over nothing, the value stays what it is. -/
def Settled (v : Setting) : Prop := overlay nothing v = v

/-- Laying members over lesser ones puts them behind these. -/
theorem overlayMembers_of_lt {upper : List (String × Setting)} :
    ∀ {lower : List (String × Setting)},
      (lower ++ upper).Pairwise (fun a b => compare a.1 b.1 = .lt) →
      (∀ e ∈ upper, Settled e.2) → overlayMembers lower upper = lower ++ upper := by
  induction upper with
  | nil => intro lower _ _; rw [overlayMembers, List.append_nil]
  | cons e upper ih =>
    intro lower hsorted hsettled
    have hlower : ∀ a ∈ lower, compare a.1 e.1 = .lt := fun a ha =>
      (List.pairwise_append.1 hsorted).2.2 a ha e (by simp)
    have hvalue : overlay (memberOf e.1 lower) e.2 = e.2 := by
      rw [memberOf, SortedMap.lookup_eq_none_of_lt hlower]
      exact hsettled e (by simp)
    rw [overlayMembers, hvalue, withMember, SortedMap.insertEntry_of_lt _ hlower]
    rw [ih (by simpa using hsorted) fun a ha => hsettled a (List.mem_cons_of_mem _ ha)]
    simp

/-- Every value of a map's table is that of a value of the map. -/
theorem exists_of_mem_map {f : α → Setting} {m : SortedMap String α} {e : String × Setting}
    (he : e ∈ (m.map f).toList) : ∃ a ∈ m.toList, e = (a.1, f a.2) := by
  obtain ⟨a, ha, rfl⟩ := List.mem_map.1 he
  exact ⟨a, ha, rfl⟩

/-- The table of a map with settled values is settled. -/
theorem settled_ofMap {f : α → Setting} {m : SortedMap String α}
    (h : ∀ a ∈ m.toList, Settled (f a.2)) : Settled (ofMap f m) := by
  have hmembers : overlayMembers [] (m.map f).toList = (m.map f).toList := by
    refine overlayMembers_of_lt (m.map f).sorted fun e he => ?_
    obtain ⟨a, ha, rfl⟩ := exists_of_mem_map he
    exact h a ha
  have hoverlay : overlay nothing (ofMap f m) =
      table (overlayMembers nothing.members (m.map f).toList) := by rw [ofMap, overlay]
  exact hoverlay.trans (congrArg table hmembers)

end Tables

/-! ## Keys that stand for themselves -/

/-- The key stands for the name that it is. -/
def IsPlainKey (key : String) : Prop := pathOfKey key = [.name key]

instance (key : String) : Decidable (IsPlainKey key) :=
  inferInstanceAs (Decidable (pathOfKey key = [.name key]))

/-- A name that is read for a path stands for itself. -/
theorem isPlainKey_of_readPathName? {s rest : List Char} {name : String}
    (h : readPathName? s = some (name, rest)) : IsPlainKey name := by
  simp only [readPathName?] at h
  split at h
  · cases h
  · next hne =>
    obtain ⟨rfl, rfl⟩ := Prod.mk.inj (Option.some.inj h)
    have hchars : ∀ c ∈ s.takeWhile isPathChar, isPathChar c = true := fun c hc =>
      List.mem_takeWhile_imp hc
    have hread : readPathName? (s.takeWhile isPathChar) =
        some (String.ofList (s.takeWhile isPathChar), []) := by
      rw [readPathName?, List.takeWhile_eq_self_iff.2 hchars, if_neg hne,
        List.dropWhile_eq_nil_iff.2 hchars]
    rw [IsPlainKey, pathOfKey, String.toList_ofList, readPath?, hread]
    rfl

/-- **A path begins with a name that stands for itself.** -/
theorem pathOfKey_cases (key : String) :
    ∃ name path, pathOfKey key = .name name :: path ∧ IsPlainKey name := by
  -- A key that is no path is one name as it stands.
  cases hpath : readPath? key.toList with
  | none =>
    have hplain : pathOfKey key = [.name key] := by rw [pathOfKey, hpath, Option.getD_none]
    exact ⟨key, [], hplain, hplain⟩
  | some path =>
    have hkey : pathOfKey key = path := by rw [pathOfKey, hpath, Option.getD_some]
    unfold readPath? at hpath
    obtain ⟨⟨name, rest⟩, hname, hsteps⟩ := Option.bind_eq_some_iff.1 hpath
    obtain ⟨steps, -, hcons⟩ := Option.bind_eq_some_iff.1 hsteps
    obtain rfl := Option.some.inj hcons
    exact ⟨name, steps, hkey, isPlainKey_of_readPathName? hname⟩

/-! ## Layers -/

/-- The first key of a layer is put before the others. -/
theorem addLayer_cons (lower : Setting) (e : String × Setting) (layer : List (String × Setting)) :
    addLayer lower (e :: layer) = addLayer (lower.put (pathOfKey e.1) e.2) layer := rfl

/-- Putting a value at a key that stands for itself, over lesser ones, puts it behind these. -/
theorem put_plain {lower : List (String × Setting)} {key : String} {v : Setting}
    (hlower : ∀ a ∈ lower, compare a.1 key = .lt) (hkey : IsPlainKey key) (hv : Settled v) :
    (table lower).put (pathOfKey key) v = table (lower ++ [(key, v)]) := by
  rw [hkey, put, update, update, members, memberOf, SortedMap.lookup_eq_none_of_lt hlower,
    withMember, SortedMap.insertEntry_of_lt _ hlower]
  rw [Option.getD_none, hv]

/-- Adding a layer whose keys stand for themselves to lesser members puts it behind these. -/
theorem addLayer_plain {layer : List (String × Setting)} :
    ∀ {lower : List (String × Setting)},
      (lower ++ layer).Pairwise (fun a b => compare a.1 b.1 = .lt) →
      (∀ e ∈ layer, IsPlainKey e.1 ∧ Settled e.2) →
      addLayer (table lower) layer = table (lower ++ layer) := by
  induction layer with
  | nil => intro lower _ _; rw [List.append_nil]; rfl
  | cons e layer ih =>
    intro lower hsorted hlayer
    have hlower : ∀ a ∈ lower, compare a.1 e.1 = .lt := fun a ha =>
      (List.pairwise_append.1 hsorted).2.2 a ha e (by simp)
    obtain ⟨hkey, hvalue⟩ := hlayer e (by simp)
    rw [addLayer_cons, put_plain hlower hkey hvalue,
      ih (by simpa using hsorted) fun a ha => hlayer a (List.mem_cons_of_mem _ ha),
      List.append_assoc, List.singleton_append]

/-- **A layer whose keys stand for themselves is kept as it is.** -/
theorem ofLayer_ofMap {α : Type} {f : α → Setting} {m : SortedMap String α}
    (h : ∀ a ∈ m.toList, IsPlainKey a.1 ∧ Settled (f a.2)) :
    ofLayer (m.map f).toList = ofMap f m := by
  show addLayer (table []) (m.map f).toList = table ([] ++ (m.map f).toList)
  refine addLayer_plain (m.map f).sorted fun e he => ?_
  obtain ⟨a, ha, rfl⟩ := exists_of_mem_map he
  exact h a ha

/-- Putting a value at the path of a key adds no name at the top but one that stands for itself. -/
theorem mem_members_put {lower v : Setting} {key : String} {e : String × Setting}
    (he : e ∈ (lower.put (pathOfKey key) v).members) :
    IsPlainKey e.1 ∨ ∃ a ∈ lower.members, a.1 = e.1 := by
  obtain ⟨name, path, hpath, hname⟩ := pathOfKey_cases key
  rw [hpath, put, update, members, withMember] at he
  rcases SortedMap.mem_insertEntry he with heq | hlower
  · exact .inl (heq ▸ hname)
  · exact .inr hlower

/-- **Every name at the top stands for itself**, whatever keys a layer has. -/
theorem isPlainKey_of_mem_ofLayer (layer : List (String × Setting)) :
    ∀ e ∈ (ofLayer layer).members, IsPlainKey e.1 := by
  have hall : ∀ lower : Setting, (∀ e ∈ lower.members, IsPlainKey e.1) →
      ∀ e ∈ (addLayer lower layer).members, IsPlainKey e.1 := by
    induction layer with
    | nil => exact fun lower hlower => hlower
    | cons entry layer ih =>
      intro lower hlower
      rw [addLayer_cons]
      refine ih (lower.put (pathOfKey entry.1) entry.2) fun e he => ?_
      rcases mem_members_put he with hplain | ⟨a, ha, heq⟩
      · exact hplain
      · exact heq ▸ hlower a ha
  exact hall (table []) (by simp [members])

end ModelProbe.Setting
