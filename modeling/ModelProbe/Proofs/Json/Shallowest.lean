import Mathlib.Data.List.Lex
import Mathlib.Logic.Function.Iterate
import ModelProbe.Proofs.Json.Ordered
/-!
# The shallowest occurrence of a key

A path goes down from a value, with each step into a member of an object or into the first item of
an array. Of all paths to objects that have a key, the search follows the one with the fewest steps,
and of these the first in the order of the members' names. Other items of arrays are not looked at.

* `mem_walks_iff`, `pairwise_walks`: the values of a level by the paths that lead to them, in order.
* `exists_level_of_locateFrom?`: the key is found in the first level that has it.
* `searchQueue?_eq`: a search that keeps one queue finds the same.
* `locate?_shallowest`: what the search finds, and where.
-/

namespace ModelProbe.Json

/-! ## Paths -/

/-- A step down into a value. -/
inductive Step
  /-- Into a member of an object. -/
  | member (name : String)
  /-- Into the first item of an array. -/
  | first
  deriving DecidableEq, Repr

/-- What a step leads to. -/
def step? : Step → Json → Option Json
  | .member name, object members => SortedMap.lookup name members
  | .first, array (item :: _) => some item
  | _, _ => none

/-- What a path leads to. -/
def follow? : List Step → Json → Option Json
  | [], v => some v
  | s :: path, v => (step? s v).bind (follow? path)

/-- A path with one more step goes on where the path has led. -/
theorem follow?_concat (path : List Step) (s : Step) (v : Json) :
    follow? (path ++ [s]) v = (follow? path v).bind (step? s) := by
  induction path generalizing v with
  | nil =>
    show (step? s v).bind some = step? s v
    exact Option.bind_fun_some _
  | cons s' path ih =>
    show (step? s' v).bind (follow? (path ++ [s])) = ((step? s' v).bind (follow? path)).bind _
    rw [Option.bind_assoc]
    congr 1
    funext w
    exact ih w

/-- The path leads to an object that has the key, with this value. -/
def HoldsAt (key : String) (v : Json) (path : List Step) (w : Json) : Prop :=
  ∃ members, follow? path v = some (object members) ∧ SortedMap.lookup key members = some w

/-- Steps into members are ordered by the names of the members. -/
inductive Step.Before : Step → Step → Prop
  | member {a b : String} (h : compare a b = .lt) : Before (.member a) (.member b)

instance Step.asymm_before : Std.Asymm Step.Before where
  asymm := by
    rintro _ _ ⟨hab⟩ ⟨hba⟩
    rw [Std.OrientedCmp.gt_of_lt hab] at hba
    cases hba

/-- A path comes before another: it has fewer steps, or as many and is the first by the names at
which the two part. -/
def Earlier (p q : List Step) : Prop :=
  p.length < q.length ∨ p.length = q.length ∧ List.Lex Step.Before p q

/-- No two paths come before one another. -/
theorem Earlier.asymm {p q : List Step} (h : Earlier p q) : ¬ Earlier q p := by
  rintro (hlt | ⟨heq, hlex⟩)
  · rcases h with h | ⟨h, -⟩ <;> omega
  · rcases h with h | ⟨-, h⟩
    · omega
    · exact Std.Asymm.asymm (r := List.Lex Step.Before) _ _ h hlex

/-- Of two paths with equally many steps, the first stays the first when both go on. -/
theorem lex_append_of_length {r : Step → Step → Prop} {p q : List Step} (h : List.Lex r p q)
    (hlength : p.length = q.length) (a b : List Step) : List.Lex r (p ++ a) (q ++ b) := by
  induction h with
  | nil => cases hlength
  | rel h => exact .rel h
  | cons _ ih => exact .cons (ih (Nat.succ.inj hlength))

/-! ## Levels -/

/-- The steps that go down from a value, in order, each with what it leads to. -/
def stepsOf : Json → List (Step × Json)
  | object members => members.map fun e => (.member e.1, e.2)
  | array (item :: _) => [(.first, item)]
  | _ => []

/-- The steps lead to the values one step below. -/
theorem map_snd_stepsOf (v : Json) : v.stepsOf.map Prod.snd = v.children := by
  cases v with
  | object members => simp [stepsOf, children, List.map_map, Function.comp_def]
  | array items => cases items <;> rfl
  | _ => rfl

/-- A value's steps are those that lead somewhere. -/
theorem mem_stepsOf_iff {v : Json} (hv : v.Ordered) (s : Step) (w : Json) :
    (s, w) ∈ v.stepsOf ↔ step? s v = some w := by
  cases v with
  | object members =>
    cases s with
    | member name =>
      show _ ↔ SortedMap.lookup name members = some w
      rw [← SortedMap.mem_iff_lookup hv.sorted]
      simp [stepsOf]
    | first => simp [stepsOf, step?]
  | array items => cases items <;> cases s <;> simp [stepsOf, step?, eq_comm]
  | _ => cases s <;> simp [stepsOf, step?]

/-- A value's steps stand in order. -/
theorem pairwise_stepsOf {v : Json} (hv : v.Ordered) :
    v.stepsOf.Pairwise fun a b => a.1.Before b.1 := by
  cases v with
  | object members =>
    rw [stepsOf, List.pairwise_map]
    exact hv.sorted.imp fun h => .member h
  | array items => cases items <;> simp [stepsOf]
  | _ => exact .nil

/-- What a step leads to is ordered, if the value is. -/
theorem Ordered.of_step? {v w : Json} {s : Step} (hv : v.Ordered) (h : step? s v = some w) :
    w.Ordered := by
  cases v with
  | object members =>
    cases s with
    | member name => exact hv.of_mem_members _ (SortedMap.mem_of_lookup h)
    | first => cases h
  | array items =>
    cases items with
    | nil => cases s <;> cases h
    | cons item others =>
      cases s with
      | member name => cases h
      | first =>
        obtain rfl := Option.some.inj h
        exact hv.of_mem_items _ List.mem_cons_self
  | _ => cases s <;> cases h

/-- The paths with this many steps, in order, each with what it leads to. -/
def walks (v : Json) : Nat → List (List Step × Json)
  | 0 => [([], v)]
  | n + 1 => (v.walks n).flatMap fun walk =>
      walk.2.stepsOf.map fun last => (walk.1 ++ [last.1], last.2)

/-- The walks lead to the values of the level. -/
theorem map_snd_walks (v : Json) (n : Nat) : (v.walks n).map Prod.snd = nextLevel^[n] [v] := by
  induction n with
  | zero => rfl
  | succ n ih =>
    rw [Function.iterate_succ_apply', ← ih, walks, nextLevel, List.map_flatMap, List.flatMap_map]
    congr 1
    funext walk
    rw [List.map_map, ← map_snd_stepsOf]
    rfl

/-- **The walks are the paths with this many steps**, each with what it leads to, and what they lead
to is ordered. -/
theorem mem_walks_iff {v : Json} (hv : v.Ordered) (n : Nat) :
    (∀ walk ∈ v.walks n, walk.2.Ordered) ∧
      ∀ path w, (path, w) ∈ v.walks n ↔ path.length = n ∧ follow? path v = some w := by
  induction n with
  | zero =>
    refine ⟨fun walk hwalk => ?_, fun path w => ?_⟩
    · obtain rfl := List.mem_singleton.1 hwalk
      exact hv
    · rw [walks, List.mem_singleton, List.length_eq_zero_iff, Prod.mk.injEq]
      constructor
      · rintro ⟨rfl, rfl⟩
        exact ⟨rfl, rfl⟩
      · rintro ⟨rfl, h⟩
        exact ⟨rfl, (Option.some.inj h).symm⟩
  | succ n ih =>
    obtain ⟨hordered, hmem⟩ := ih
    refine ⟨fun walk hwalk => ?_, fun path w => ?_⟩
    · obtain ⟨before, hbefore, hlast⟩ := List.mem_flatMap.1 hwalk
      obtain ⟨last, hstep, rfl⟩ := List.mem_map.1 hlast
      have hbefore' := hordered before hbefore
      exact hbefore'.of_step? ((mem_stepsOf_iff hbefore' last.1 last.2).1 hstep)
    · constructor
      · intro hwalk
        obtain ⟨before, hbefore, hlast⟩ := List.mem_flatMap.1 hwalk
        obtain ⟨last, hstep, heq⟩ := List.mem_map.1 hlast
        obtain ⟨rfl, rfl⟩ := Prod.mk.inj heq
        obtain ⟨hlength, hfollow⟩ := (hmem before.1 before.2).1 hbefore
        have hlast' := (mem_stepsOf_iff (hordered before hbefore) last.1 last.2).1 hstep
        refine ⟨by simp [hlength], ?_⟩
        rw [follow?_concat, hfollow, Option.bind_some]
        exact hlast'
      · rintro ⟨hlength, hfollow⟩
        -- A path that is not empty is a shorter path with one more step.
        rcases List.eq_nil_or_concat path with rfl | ⟨shorter, s, rfl⟩
        · cases hlength
        · rw [List.concat_eq_append] at hlength hfollow ⊢
          rw [follow?_concat] at hfollow
          obtain ⟨u, hu, hstep⟩ := Option.bind_eq_some_iff.1 hfollow
          have hbefore : (shorter, u) ∈ v.walks n :=
            (hmem shorter u).2 ⟨by simpa using hlength, hu⟩
          refine List.mem_flatMap.2 ⟨_, hbefore, List.mem_map.2 ⟨(s, w), ?_, rfl⟩⟩
          exact (mem_stepsOf_iff (hordered _ hbefore) s w).2 hstep

/-- **The walks stand in the order of their paths.** -/
theorem pairwise_walks {v : Json} (hv : v.Ordered) (n : Nat) :
    (v.walks n).Pairwise fun a b => List.Lex Step.Before a.1 b.1 := by
  induction n with
  | zero => exact List.pairwise_singleton _ _
  | succ n ih =>
    obtain ⟨hordered, hmem⟩ := mem_walks_iff hv n
    rw [walks, List.pairwise_flatMap]
    constructor
    · intro walk hwalk
      rw [List.pairwise_map]
      refine List.Pairwise.imp (fun {a b} h => ?_) (pairwise_stepsOf (hordered walk hwalk))
      exact List.Lex.append_left Step.Before (.rel h) walk.1
    · refine ih.imp_of_mem fun {a b} ha hb hab => ?_
      -- Both paths have the same number of steps, so what they go on with does not matter.
      have hlength : a.1.length = b.1.length :=
        ((hmem a.1 a.2).1 ha).1.trans ((hmem b.1 b.2).1 hb).1.symm
      intro x hx y hy
      obtain ⟨s, -, rfl⟩ := List.mem_map.1 hx
      obtain ⟨t, -, rfl⟩ := List.mem_map.1 hy
      exact lex_append_of_length hab hlength [s.1] [t.1]

/-- A value holds the key at a path exactly when the path's walk leads to a value that has it. -/
theorem holdsAt_iff {v : Json} (hv : v.Ordered) {key : String} {path : List Step} {w : Json} :
    HoldsAt key v path w ↔ ∃ u, (path, u) ∈ v.walks path.length ∧ u.member? key = some w := by
  constructor
  · rintro ⟨members, hfollow, hkey⟩
    exact ⟨object members, ((mem_walks_iff hv _).2 _ _).2 ⟨rfl, hfollow⟩, hkey⟩
  · rintro ⟨u, hu, hkey⟩
    cases u with
    | object members => exact ⟨members, (((mem_walks_iff hv _).2 _ _).1 hu).2, hkey⟩
    | _ => cases hkey

/-! ## Level by level -/

/-- The first of these levels that has the key, counted from this one on, is the one in which it is
found. -/
theorem exists_level_of_locateFrom? {key : String} {level : List Json} {w : Json}
    (h : locateFrom? key level = some w) :
    ∃ n, (∀ m < n, (nextLevel^[m] level).findSome? (member? key) = none) ∧
      (nextLevel^[n] level).findSome? (member? key) = some w := by
  induction level using locateFrom?.induct key with
  | case1 level u hown =>
    rw [locateFrom?_eq, hown] at h
    exact ⟨0, fun m hm => absurd hm (Nat.not_lt_zero m), hown.trans h⟩
  | case2 hnone =>
    rw [locateFrom?_nil] at h
    cases h
  | case3 level hown _ ih =>
    rw [locateFrom?_eq, hown, Option.none_or] at h
    obtain ⟨n, hbefore, hfound⟩ := ih h
    refine ⟨n + 1, fun m hm => ?_, hfound⟩
    cases m with
    | zero => exact hown
    | succ m => exact hbefore m (Nat.lt_of_succ_lt_succ hm)

/-- When some level has the key, the search finds something. -/
theorem isSome_locateFrom? {key : String} (n : Nat) : ∀ {level : List Json},
    ((nextLevel^[n] level).findSome? (member? key)).isSome →
      (locateFrom? key level).isSome := by
  induction n with
  | zero =>
    intro level h
    rw [locateFrom?_eq, Option.isSome_or, Bool.or_eq_true]
    exact .inl h
  | succ n ih =>
    intro level h
    rw [locateFrom?_eq, Option.isSome_or, Bool.or_eq_true]
    exact .inr (ih h)

/-! ## One queue -/

/-- The search with one queue: the values that wait are looked at in turn, and the values below the
one that was looked at wait behind all others. -/
def searchQueue? (key : String) : List Json → Option Json
  | [] => none
  | v :: waiting =>
    match v.member? key with
    | some w => some w
    | none => searchQueue? key (waiting ++ v.children)
termination_by queue => total queue
decreasing_by
  have := total_children_lt v
  rw [total_append, total_cons]
  omega

/-- While a level is looked at, the queue holds what is left of it and, behind that, what stands
below the part that was looked at. -/
theorem searchQueue?_append (key : String) (level : List Json) : ∀ below : List Json,
    searchQueue? key (level ++ below) =
      (level.findSome? (member? key)).or (searchQueue? key (below ++ nextLevel level)) := by
  induction level with
  | nil =>
    intro below
    rw [List.nil_append, nextLevel, List.flatMap_nil, List.append_nil]
    rfl
  | cons v level ih =>
    intro below
    rw [List.cons_append, searchQueue?, List.findSome?_cons]
    cases hv : v.member? key with
    | some w => rfl
    | none =>
      dsimp only
      rw [List.append_assoc, ih, nextLevel, nextLevel, List.flatMap_cons, List.append_assoc]

/-- **A search with one queue goes level by level.** -/
theorem searchQueue?_eq (key : String) (level : List Json) :
    searchQueue? key level = locateFrom? key level := by
  have hstep : ∀ level : List Json, searchQueue? key level =
      (level.findSome? (member? key)).or (searchQueue? key (nextLevel level)) := by
    intro level
    have h := searchQueue?_append key level []
    rwa [List.append_nil, List.nil_append] at h
  induction level using locateFrom?.induct key with
  | case1 level w hown => rw [hstep, locateFrom?_eq, hown, Option.some_or, Option.some_or]
  | case2 hnone => rw [searchQueue?, locateFrom?_nil]
  | case3 level hown _ ih => rw [hstep, locateFrom?_eq, ih]

/-! ## First items only -/

mutual

/-- The value with every array cut behind its first item. -/
def pruned : Json → Json
  | array (item :: _) => array [item.pruned]
  | object members => object (prunedMembers members)
  | v => v

/-- The members with every array in them cut behind its first item. -/
def prunedMembers : List (String × Json) → List (String × Json)
  | [] => []
  | (name, v) :: members => (name, v.pruned) :: prunedMembers members

end

theorem prunedMembers_eq_map (members : List (String × Json)) :
    prunedMembers members = members.map fun e => (e.1, e.2.pruned) := by
  induction members with
  | nil => rfl
  | cons e members ih => rw [prunedMembers, ih, List.map_cons]

/-- Cutting arrays keeps what a value's own members are. -/
theorem member?_pruned (key : String) (v : Json) :
    v.pruned.member? key = (v.member? key).map pruned := by
  cases v with
  | object members =>
    show SortedMap.lookup key (prunedMembers members) = (SortedMap.lookup key members).map pruned
    induction members with
    | nil => rfl
    | cons e members ih =>
      rw [prunedMembers, SortedMap.lookup, SortedMap.lookup, ih]
      split <;> rfl
  | array items => cases items <;> rfl
  | _ => rfl

/-- Cutting arrays keeps which values stand one step below. -/
theorem children_pruned (v : Json) : v.pruned.children = v.children.map pruned := by
  cases v with
  | object members =>
    rw [pruned, prunedMembers_eq_map, children, children, List.map_map, List.map_map]
    rfl
  | array items => cases items <;> rfl
  | _ => rfl

/-- In levels with cut arrays the same is found, with its arrays cut. -/
theorem locateFrom?_pruned (key : String) (level : List Json) :
    locateFrom? key (level.map pruned) = (locateFrom? key level).map pruned := by
  have hown : ∀ level : List Json, (level.map pruned).findSome? (member? key) =
      (level.findSome? (member? key)).map pruned := by
    intro level
    rw [List.findSome?_map, List.map_findSome?]
    congr 1
    funext v
    exact member?_pruned key v
  have hnext : ∀ level : List Json,
      nextLevel (level.map pruned) = (nextLevel level).map pruned := by
    intro level
    rw [nextLevel, nextLevel, List.flatMap_map, List.map_flatMap]
    congr 1
    funext v
    exact children_pruned v
  induction level using locateFrom?.induct key with
  | case1 level w hfound =>
    rw [locateFrom?_eq key (level.map pruned), locateFrom?_eq key level, hown, hfound]
    rfl
  | case2 hnone => rw [List.map_nil, locateFrom?_nil, Option.map_none]
  | case3 level hnone _ ih =>
    rw [locateFrom?_eq key (level.map pruned), locateFrom?_eq key level, hown, hnone, hnext, ih]
    rfl

/-! ## The shallowest occurrence -/

/-- What is found stands under the key at a path, and every other path to an object that has the
key is later. -/
theorem exists_path_of_locate? {v : Json} (hv : v.Ordered) {key : String} {w : Json}
    (h : v.locate? key = some w) :
    ∃ path, HoldsAt key v path w ∧
      ∀ path' w', HoldsAt key v path' w' → path' = path ∨ Earlier path path' := by
  obtain ⟨n, hnone, hfound⟩ := exists_level_of_locateFrom? h
  -- Up to the first of its values that has the key, the level is listed by paths.
  rw [← map_snd_walks, List.findSome?_map] at hfound
  obtain ⟨before, ⟨path, u⟩, after, hwalks, hkey, hbefore⟩ := List.findSome?_eq_some_iff.1 hfound
  have hmem := (mem_walks_iff hv n).2
  have hpath := (hmem path u).1 (by simp [hwalks])
  obtain rfl := hpath.1
  refine ⟨path, (holdsAt_iff hv).2 ⟨u, by simp [hwalks], hkey⟩, fun path' w' hother => ?_⟩
  obtain ⟨u', hu', hkey'⟩ := (holdsAt_iff hv).1 hother
  rcases Nat.lt_trichotomy path'.length path.length with hlt | heq | hgt
  · -- No level above this one has the key.
    have hlevel := hnone _ hlt
    rw [← map_snd_walks, List.findSome?_map] at hlevel
    have hnot := List.findSome?_eq_none_iff.1 hlevel _ hu'
    rw [Function.comp_apply, hkey'] at hnot
    cases hnot
  · rw [heq, hwalks] at hu'
    have hsorted := pairwise_walks hv path.length
    rw [hwalks] at hsorted
    rcases List.mem_append.1 hu' with hin | hin
    · have hnot := hbefore _ hin
      rw [Function.comp_apply, hkey'] at hnot
      cases hnot
    · rcases List.mem_cons.1 hin with heq' | hin
      · exact .inl (congrArg Prod.fst heq')
      · have hlater := List.rel_of_pairwise_cons (List.pairwise_append.1 hsorted).2.1 hin
        exact .inr (.inr ⟨heq.symm, hlater⟩)
  · exact .inr (.inl hgt)

/-- When any path leads to an object that has the key, the search finds something. -/
theorem isSome_locate?_of_holdsAt {v : Json} (hv : v.Ordered) {key : String} {path : List Step}
    {w : Json} (h : HoldsAt key v path w) : (v.locate? key).isSome := by
  obtain ⟨u, hu, hkey⟩ := (holdsAt_iff hv).1 h
  refine isSome_locateFrom? path.length ?_
  rw [← map_snd_walks, List.findSome?_map, List.findSome?_isSome_iff]
  exact ⟨(path, u), hu, by simp [hkey]⟩

/-- **The search finds the shallowest occurrence.** It finds something exactly when some path leads
to an object that has the key, and then what stands there at the path with the fewest steps, the
first one by the members' names; and behind the first items of arrays nothing counts. -/
theorem locate?_shallowest (v : Json) (hv : v.Ordered) (key : String) :
    ((v.locate? key).isSome ↔ ∃ path w, HoldsAt key v path w) ∧
      (∀ w, v.locate? key = some w ↔ ∃ path, HoldsAt key v path w ∧
        ∀ path' w', HoldsAt key v path' w' → path' = path ∨ Earlier path path') ∧
      v.pruned.locate? key = (v.locate? key).map pruned := by
  refine ⟨⟨fun h => ?_, fun ⟨path, w, h⟩ => isSome_locate?_of_holdsAt hv h⟩, fun w => ?_,
    locateFrom?_pruned key [v]⟩
  · obtain ⟨w, hw⟩ := Option.isSome_iff_exists.1 h
    obtain ⟨path, hpath, -⟩ := exists_path_of_locate? hv hw
    exact ⟨path, w, hpath⟩
  · refine ⟨exists_path_of_locate? hv, fun ⟨path, hpath, hfirst⟩ => ?_⟩
    obtain ⟨u, hu⟩ := Option.isSome_iff_exists.1 (isSome_locate?_of_holdsAt hv hpath)
    obtain ⟨path', hpath', hfirst'⟩ := exists_path_of_locate? hv hu
    -- Both paths are the first one, so they are the same path.
    obtain rfl : path = path' := by
      rcases hfirst path' u hpath' with heq | hearlier
      · exact heq.symm
      · rcases hfirst' path w hpath with heq | hlater
        · exact heq
        · exact absurd hlater hearlier.asymm
    obtain ⟨members, hmembers, hw⟩ := hpath
    obtain ⟨members', hmembers', hu'⟩ := hpath'
    obtain rfl : members = members' := by
      rw [hmembers] at hmembers'
      exact object.inj (Option.some.inj hmembers')
    rw [hu, ← hu', hw]

/-- A value with texts under two of its members, and more of them in a list. -/
def nestedTexts : Json :=
  object [
    ("best", object [("text", string "near")]),
    ("list", array [object [("text", string "listed")], object [("text", string "unseen")]]),
    ("next", object [("text", string "later")])]

/-- Of two texts that are equally far away the one with the lesser name is found. -/
theorem locate?_shallowest_nestedTexts :
    nestedTexts.Ordered ∧ HoldsAt "text" nestedTexts [.member "next"] (string "later") ∧
      nestedTexts.locate? "text" = some (string "near") ∧
      ∃ path, HoldsAt "text" nestedTexts path (string "near") ∧
        ∀ path' w', HoldsAt "text" nestedTexts path' w' → path' = path ∨ Earlier path path' := by
  have hleaf : ∀ s, (object [("text", string s)]).Ordered := fun s =>
    .object (List.pairwise_singleton _ _) (List.forall_mem_singleton.2 (.plain rfl))
  have hordered : nestedTexts.Ordered := by
    refine .object (by decide) ?_
    simp only [List.forall_mem_cons]
    refine ⟨hleaf _, .array ?_, hleaf _, fun e he => absurd he List.not_mem_nil⟩
    simp only [List.forall_mem_cons]
    exact ⟨hleaf _, hleaf _, fun e he => absurd he List.not_mem_nil⟩
  have hfound : nestedTexts.locate? "text" = some (string "near") := by
    rw [nestedTexts, locate?_object, locateFrom?_eq]
    rfl
  obtain ⟨-, hfirst, -⟩ := locate?_shallowest nestedTexts hordered "text"
  exact ⟨hordered, ⟨_, rfl, rfl⟩, hfound, (hfirst _).1 hfound⟩

end ModelProbe.Json
