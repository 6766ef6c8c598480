import Mathlib.Data.List.Sort
import ModelProbe.SortedMap
/-!
# Lookups and listings of finite maps

Putting entries into a map one after another, the last entry of a key counts. A listing has
exactly the entries that lookups find, so it is determined by them.

* `get?_foldl_insert`: the lookups after any number of insertions.
* `filter_toList_congr`: equal lookups of the entries that are kept make equal listings.
* `filter_keys`: the entries of some keys, in the order of the keys.
* `get?_mergeWith`: what a lookup in two merged maps finds.
* `mergeWith_assoc`, `mergeWith_self`: laws that merged maps take over from their values.
* `find?_toList_ofList`: the first key that is looked for.
* `traverse_eq_ok`, `traverse_eq_error`: the results and the first failure of a traversal.
* `All.mergeWith`: what is kept of a property of all values.
-/

namespace ModelProbe.SortedMap

variable {κ α : Type} [Ord κ] [Std.TransOrd κ] [Std.LawfulEqOrd κ]

/-! ## Insertions one after another -/

/-- Looking up in a map with entries put into it finds the last of them under the key, or what was
there before. -/
theorem get?_foldl_insert [BEq κ] [LawfulBEq κ] (entries : List (κ × α)) (k : κ) :
    ∀ m : SortedMap κ α, (entries.foldl (fun m (k, v) => m.insert k v) m).get? k =
      (entries.reverse.lookup k).or (m.get? k) := by
  induction entries with
  | nil => intro m; rfl
  | cons e entries ih =>
    intro m
    obtain ⟨k', v⟩ := e
    rw [List.foldl_cons, ih, get?_insert, List.reverse_cons, List.lookup_append, Option.or_assoc]
    congr 1
    by_cases hk : k = k'
    · simp [hk]
    · have hbeq : (k == k') = false := by simpa using hk
      simp [hk, hbeq, List.lookup_cons]

/-- Looking up in the map of some entries finds the last of them under the key. -/
theorem get?_ofList [BEq κ] [LawfulBEq κ] (entries : List (κ × α)) (k : κ) :
    (ofList entries).get? k = entries.reverse.lookup k := by
  rw [ofList, get?_foldl_insert, get?_empty, Option.or_none]

omit [Std.LawfulEqOrd κ] in
/-- The map of more entries is the map of the first with the others put into it. -/
theorem ofList_append (a b : List (κ × α)) :
    ofList (a ++ b) = b.foldl (fun m (k, v) => m.insert k v) (ofList a) := by
  rw [ofList, List.foldl_append, ofList]

/-! ## Listings -/

omit [Ord κ] [Std.TransOrd κ] [Std.LawfulEqOrd κ] in
/-- What is looked up among some entries is one of them. -/
theorem mem_of_lookup_eq_some [BEq κ] [LawfulBEq κ] {entries : List (κ × α)} {k : κ} {v : α}
    (h : entries.lookup k = some v) : (k, v) ∈ entries := by
  obtain ⟨before, after, rfl, -⟩ := List.lookup_eq_some_iff.1 h
  simp

omit [Std.TransOrd κ] in
/-- What a lookup finds is one of the entries. -/
theorem mem_of_lookup {l : List (κ × α)} {k : κ} {v : α} (h : lookup k l = some v) :
    (k, v) ∈ l := by
  induction l with
  | nil => cases h
  | cons e l ih =>
    obtain ⟨k', v'⟩ := e
    rw [lookup] at h
    by_cases hk : compare k k' = .eq
    · rw [if_pos hk] at h
      obtain rfl := Std.LawfulEqCmp.eq_of_compare hk
      obtain rfl := Option.some.inj h
      exact List.mem_cons_self
    · rw [if_neg hk] at h
      exact List.mem_cons_of_mem _ (ih h)

omit [Std.TransOrd κ] in
/-- A sorted list holds an entry exactly when a lookup finds it. -/
theorem mem_iff_lookup {l : List (κ × α)} (hl : l.Pairwise fun a b => compare a.1 b.1 = .lt)
    (k : κ) (v : α) : (k, v) ∈ l ↔ lookup k l = some v := by
  induction l with
  | nil => simp [lookup]
  | cons e l ih =>
    rw [List.pairwise_cons] at hl
    obtain ⟨k', v'⟩ := e
    rw [List.mem_cons, lookup, ih hl.2]
    by_cases hk : compare k k' = .eq
    · obtain rfl := Std.LawfulEqCmp.eq_of_compare hk
      rw [if_pos hk]
      -- The key stands only once, so a later entry of it cannot be found.
      have hlater : lookup k l ≠ some v := by
        intro h
        have := hl.1 _ ((ih hl.2).2 h)
        rw [hk] at this
        cases this
      simp [hlater, eq_comm]
    · rw [if_neg hk]
      have hne : k ≠ k' := by
        rintro rfl
        exact hk Std.ReflCmp.compare_self
      simp [hne]

omit [Std.TransOrd κ] in
/-- A map lists an entry exactly when a lookup finds it. -/
theorem mem_toList_iff (m : SortedMap κ α) (k : κ) (v : α) :
    (k, v) ∈ m.toList ↔ m.get? k = some v :=
  mem_iff_lookup m.sorted k v

omit [Std.TransOrd κ] in
/-- In a listing every key stands once, so its last entry is the one that a lookup finds. -/
theorem lookup_reverse_toList [BEq κ] [LawfulBEq κ] (m : SortedMap κ α) (k : κ) :
    m.toList.reverse.lookup k = m.get? k := by
  cases h : m.toList.reverse.lookup k with
  | some v =>
    have hmem := List.mem_reverse.1 (mem_of_lookup_eq_some h)
    exact ((mem_toList_iff m k v).1 hmem).symm
  | none =>
    cases h' : m.get? k with
    | none => rfl
    | some v =>
      have hmem := List.mem_reverse.2 ((mem_toList_iff m k v).2 h')
      simpa using List.lookup_eq_none_iff.1 h _ hmem

omit [Std.LawfulEqOrd κ] in
/-- Sorted lists with the same entries are equal. -/
theorem eq_of_mem_iff {a b : List (κ × α)} (ha : a.Pairwise fun x y => compare x.1 y.1 = .lt)
    (hb : b.Pairwise fun x y => compare x.1 y.1 = .lt) (h : ∀ e, e ∈ a ↔ e ∈ b) : a = b := by
  let before : κ × α → κ × α → Prop := fun x y => compare x.1 y.1 = .lt
  have : Std.Irrefl before := ⟨fun x hx => by simp [before] at hx⟩
  have : Std.Antisymm before := ⟨fun x y hxy hyx => by
    have hgt := Std.OrientedCmp.gt_of_lt hxy
    rw [hyx] at hgt
    cases hgt⟩
  exact List.Pairwise.eq_of_mem_iff (r := before) ha hb h

/-- **Listings are determined by lookups.** When lookups in two maps find the same values that are
kept, the kept entries are listed alike. -/
theorem filter_toList_congr (p : α → Bool) {a b : SortedMap κ α}
    (h : ∀ k v, p v = true → (a.get? k = some v ↔ b.get? k = some v)) :
    a.toList.filter (fun e => p e.2) = b.toList.filter fun e => p e.2 := by
  refine eq_of_mem_iff (a.sorted.filter _) (b.sorted.filter _) ?_
  rintro ⟨k, v⟩
  rw [List.mem_filter, List.mem_filter, mem_toList_iff, mem_toList_iff]
  constructor
  · rintro ⟨hmem, hp⟩
    exact ⟨(h k v hp).1 hmem, hp⟩
  · rintro ⟨hmem, hp⟩
    exact ⟨(h k v hp).2 hmem, hp⟩

/-- The entries of some keys stand in the order of the keys. -/
theorem filter_keys [BEq κ] [LawfulBEq κ] {l : List (κ × α)}
    (hl : l.Pairwise fun a b => compare a.1 b.1 = .lt) {keys order : List κ}
    (horder : order.Pairwise fun a b => compare a b = .lt) (hperm : order.Perm keys) :
    l.filter (fun e => keys.contains e.1) =
      order.filterMap fun k => (lookup k l).map fun v => (k, v) := by
  refine eq_of_mem_iff (hl.filter _) ?_ fun e => ?_
  · rw [List.pairwise_filterMap]
    refine horder.imp fun hab e he e' he' => ?_
    obtain ⟨v, -, rfl⟩ := Option.map_eq_some_iff.1 he
    obtain ⟨v', -, rfl⟩ := Option.map_eq_some_iff.1 he'
    exact hab
  · rw [List.mem_filter, List.mem_filterMap, List.contains_iff_mem]
    constructor
    · rintro ⟨hmem, hkey⟩
      refine ⟨e.1, hperm.mem_iff.2 hkey, ?_⟩
      rw [(mem_iff_lookup hl e.1 e.2).1 hmem, Option.map_some]
    · rintro ⟨k, hk, he⟩
      obtain ⟨v, hv, rfl⟩ := Option.map_eq_some_iff.1 he
      exact ⟨(mem_iff_lookup hl k v).2 hv, hperm.mem_iff.1 hk⟩

/-! ## Keys -/

omit [Std.TransOrd κ] [Std.LawfulEqOrd κ] in
/-- The keys stand in increasing order, each once. -/
theorem pairwise_keys (m : SortedMap κ α) : m.keys.Pairwise fun a b => compare a b = .lt := by
  rw [keys, List.pairwise_map]
  exact m.sorted

omit [Std.TransOrd κ] in
/-- The keys are those under which a lookup finds something. -/
theorem mem_keys_iff (m : SortedMap κ α) (k : κ) : k ∈ m.keys ↔ ∃ v, m.get? k = some v := by
  rw [keys, List.mem_map]
  constructor
  · rintro ⟨⟨k', v⟩, hmem, rfl⟩
    exact ⟨v, (mem_toList_iff m k' v).1 hmem⟩
  · rintro ⟨v, hv⟩
    exact ⟨(k, v), (mem_toList_iff m k v).2 hv, rfl⟩

omit [Std.TransOrd κ] in
/-- The keys are none of those under which a lookup finds nothing. -/
theorem not_mem_keys_iff (m : SortedMap κ α) (k : κ) : k ∉ m.keys ↔ m.get? k = none := by
  rw [mem_keys_iff]
  cases m.get? k <;> simp

/-- **Maps are determined by lookups.** -/
theorem ext_get? {a b : SortedMap κ α} (h : ∀ k, a.get? k = b.get? k) : a = b := by
  have hlist := filter_toList_congr (fun _ => true) (a := a) (b := b) fun k v _ => by rw [h k]
  rw [List.filter_true, List.filter_true] at hlist
  cases a
  cases b
  congr

/-! ## Entries put into a list -/

omit [Std.LawfulEqOrd κ] in
/-- What was put under a key is found there. -/
theorem lookup_insertEntry_self (k : κ) (v : α) (l : List (κ × α)) :
    lookup k (insertEntry (fun _ new => new) k v l) = some v := by
  induction l with
  | nil => simp [insertEntry, lookup]
  | cons e l ih =>
    rw [insertEntry]
    cases h : compare k e.1 with
    | lt => simp [lookup]
    | eq => simp [lookup, h]
    | gt => simpa [lookup, h] using ih

omit [Std.TransOrd κ] in
/-- What is put under a key changes nothing under another. -/
theorem lookup_insertEntry_of_ne (f : α → α → α) {k k' : κ} (h : k' ≠ k) (v : α)
    (l : List (κ × α)) : lookup k' (insertEntry f k v l) = lookup k' l := by
  have hne : compare k' k ≠ .eq := fun heq => h (Std.LawfulEqCmp.eq_of_compare heq)
  induction l with
  | nil => exact if_neg hne
  | cons e l ih =>
    rw [insertEntry]
    cases hcmp : compare k e.1 with
    | lt => exact if_neg hne
    | eq =>
      have hkey : k = e.1 := Std.LawfulEqCmp.eq_of_compare hcmp
      have hne' : compare k' e.1 ≠ .eq := hkey ▸ hne
      exact (if_neg hne').trans (if_neg hne').symm
    | gt =>
      show (if compare k' e.1 = .eq then some e.2 else lookup k' (insertEntry f k v l)) = _
      rw [ih, lookup]

omit [Std.LawfulEqOrd κ] in
/-- The last of two values that are put under one key counts. -/
theorem insertEntry_insertEntry (k : κ) (v w : α) (l : List (κ × α)) :
    insertEntry (fun _ new => new) k w (insertEntry (fun _ new => new) k v l) =
      insertEntry (fun _ new => new) k w l := by
  induction l with
  | nil => simp [insertEntry]
  | cons e l ih =>
    rw [insertEntry]
    cases h : compare k e.1 with
    | lt => simp [insertEntry, h]
    | eq => simp [insertEntry, h]
    | gt => simp [insertEntry, h, ih]

omit [Std.LawfulEqOrd κ] in
/-- A key that is greater than all keys of a list is not found in it. -/
theorem lookup_eq_none_of_lt {l : List (κ × α)} {k : κ} (h : ∀ e ∈ l, compare e.1 k = .lt) :
    lookup k l = none := by
  induction l with
  | nil => rfl
  | cons e l ih =>
    have hgt := Std.OrientedCmp.gt_of_lt (h e (by simp))
    rw [lookup, if_neg (by simp [hgt])]
    exact ih fun e' he' => h e' (List.mem_cons_of_mem _ he')

omit [Std.LawfulEqOrd κ] in
/-- A key that is greater than all keys of a list is put at its end. -/
theorem insertEntry_of_lt (f : α → α → α) {l : List (κ × α)} {k : κ}
    (h : ∀ e ∈ l, compare e.1 k = .lt) (v : α) : insertEntry f k v l = l ++ [(k, v)] := by
  induction l with
  | nil => rfl
  | cons e l ih =>
    have hgt := Std.OrientedCmp.gt_of_lt (h e (by simp))
    rw [insertEntry, hgt, List.cons_append]
    dsimp only
    rw [ih fun e' he' => h e' (List.mem_cons_of_mem _ he')]

/-- The map of a listing is the map that was listed. -/
theorem ofList_toList [BEq κ] [LawfulBEq κ] (m : SortedMap κ α) : ofList m.toList = m :=
  ext_get? fun k => by rw [get?_ofList, lookup_reverse_toList]

/-! ## Functions on the values -/

section Mapping

variable {β : Type}

omit [Std.TransOrd κ] [Std.LawfulEqOrd κ] in
/-- A function that is applied to all values is applied to what a lookup finds. -/
theorem get?_map (f : α → β) (m : SortedMap κ α) (k : κ) :
    (m.map f).get? k = (m.get? k).map f := by
  have hlist : ∀ l : List (κ × α),
      lookup k (l.map fun e => (e.1, f e.2)) = (lookup k l).map f := by
    intro l
    induction l with
    | nil => rfl
    | cons e l ih =>
      rw [List.map_cons, lookup, lookup, ih]
      split <;> rfl
  exact hlist m.toList

omit [Std.TransOrd κ] [Std.LawfulEqOrd κ] in
/-- The keys stay when a function is applied to the values. -/
theorem keys_map (f : α → β) (m : SortedMap κ α) : (m.map f).keys = m.keys := by
  rw [keys, map, List.map_map]
  rfl

/-- A map with the keys of another one, and with a function applied to what stands under them. -/
theorem eq_map_of_keys {f : α → β} {m : SortedMap κ α} {m' : SortedMap κ β}
    (hkeys : m'.keys = m.keys) (h : ∀ k a, m.get? k = some a → m'.get? k = some (f a)) :
    m' = m.map f := by
  refine ext_get? fun k => ?_
  rw [get?_map]
  cases hget : m.get? k with
  | some a => exact h k a hget
  | none =>
    have hnot : k ∉ m'.keys := by
      rw [hkeys]
      exact (not_mem_keys_iff m k).2 hget
    exact (not_mem_keys_iff m' k).1 hnot

end Mapping

/-! ## Merging -/

/-- After insertions with distinct keys, a lookup finds what was there and what was inserted,
combined. -/
theorem get?_foldl_insertWith (f : α → α → α) (k : κ) {entries : List (κ × α)}
    (hentries : entries.Pairwise fun a b => compare a.1 b.1 = .lt) :
    ∀ m : SortedMap κ α, (entries.foldl (fun m e => m.insertWith f e.1 e.2) m).get? k =
      Option.merge f (m.get? k) (lookup k entries) := by
  induction entries with
  | nil => intro m; cases h : m.get? k <;> simp [lookup, h]
  | cons e entries ih =>
    intro m
    rw [List.pairwise_cons] at hentries
    rw [List.foldl_cons, ih hentries.2, get?_insertWith, lookup]
    by_cases hk : compare k e.1 = .eq
    · -- The key is inserted only once.
      have hlater : lookup k entries = none := by
        cases hfound : lookup k entries with
        | none => rfl
        | some v =>
          have hlt := hentries.1 _ ((mem_iff_lookup hentries.2 k v).2 hfound)
          rw [← Std.LawfulEqCmp.eq_of_compare hk] at hlt
          exact absurd (hlt.symm.trans Std.ReflCmp.compare_self) (by decide)
      rw [if_pos hk, if_pos hk, hlater]
      obtain rfl := Std.LawfulEqCmp.eq_of_compare hk
      cases m.get? e.1 <;> rfl
    · rw [if_neg hk, if_neg hk]

/-- **A lookup in two merged maps** finds what both have under the key, combined. -/
theorem get?_mergeWith (f : α → α → α) (a b : SortedMap κ α) (k : κ) :
    (mergeWith f a b).get? k = Option.merge f (a.get? k) (b.get? k) :=
  get?_foldl_insertWith f k b.sorted a

/-- The keys of two merged maps are those of either. -/
theorem mem_keys_mergeWith (f : α → α → α) (a b : SortedMap κ α) (k : κ) :
    k ∈ (mergeWith f a b).keys ↔ k ∈ a.keys ∨ k ∈ b.keys := by
  rw [mem_keys_iff, mem_keys_iff, mem_keys_iff, get?_mergeWith]
  cases a.get? k <;> cases b.get? k <;> simp [Option.merge]

/-- Nothing is added to a map that is merged into the empty one. -/
theorem empty_mergeWith (f : α → α → α) (m : SortedMap κ α) : mergeWith f empty m = m := by
  apply ext_get?
  intro k
  rw [get?_mergeWith, get?_empty, Option.merge_none_left]

/-- Merging is associative when the values are combined so. -/
theorem mergeWith_assoc (f : α → α → α) [Std.Associative f] (a b c : SortedMap κ α) :
    mergeWith f (mergeWith f a b) c = mergeWith f a (mergeWith f b c) := by
  apply ext_get?
  intro k
  rw [get?_mergeWith, get?_mergeWith, get?_mergeWith, get?_mergeWith]
  exact Std.Associative.assoc (a.get? k) (b.get? k) (c.get? k)

/-- A map merged into itself is unchanged when so is a value that is combined with itself. -/
theorem mergeWith_self (f : α → α → α) [Std.IdempotentOp f] (m : SortedMap κ α) :
    mergeWith f m m = m := by
  apply ext_get?
  intro k
  rw [get?_mergeWith]
  exact Std.IdempotentOp.idempotent (m.get? k)

/-! ## Sizes and places -/

omit [Std.LawfulEqOrd κ] in
/-- A map has one entry more after an insertion under a new key. -/
theorem size_insert {m : SortedMap κ α} {k : κ} (hk : m.get? k = none) (v : α) :
    (m.insert k v).size = m.size + 1 := by
  have hlength : ∀ l : List (κ × α), lookup k l = none →
      (insertEntry (fun _ new => new) k v l).length = l.length + 1 := by
    intro l
    induction l with
    | nil => intro _; rfl
    | cons e l ih =>
      intro hnone
      rw [lookup] at hnone
      rw [insertEntry]
      cases hcompare : compare k e.1 with
      | lt => rfl
      | eq => simp [hcompare] at hnone
      | gt =>
        rw [if_neg (by simp [hcompare])] at hnone
        show (insertEntry (fun _ new => new) k v l).length + 1 = l.length + 1 + 1
        rw [ih hnone]
  exact hlength m.toList hk

/-- The entries that stand before one of them are those with lesser keys. -/
theorem mem_before_iff {m : SortedMap κ α} {before after : List (κ × α)} {k : κ} {v : α}
    (hlist : m.toList = before ++ (k, v) :: after) (k' : κ) (v' : α) :
    (k', v') ∈ before ↔ m.get? k' = some v' ∧ compare k' k = .lt := by
  have hsorted := m.sorted
  rw [hlist, List.pairwise_append, List.pairwise_cons] at hsorted
  rw [← mem_toList_iff, hlist, List.mem_append, List.mem_cons]
  constructor
  · intro hmem
    exact ⟨.inl hmem, hsorted.2.2 _ hmem (k, v) (by simp)⟩
  · rintro ⟨hmem | hmem | hmem, hlt⟩
    · exact hmem
    · obtain ⟨rfl, -⟩ := Prod.mk.inj hmem
      exact absurd (hlt.symm.trans Std.ReflCmp.compare_self) (by decide)
    · have hgt := hsorted.2.1.1 _ hmem
      rw [Std.OrientedCmp.gt_of_lt hgt] at hlt
      cases hlt

omit [Std.TransOrd κ] in
/-- The last value that a listing yields is that of an entry after which there is none. -/
theorem getLast?_filterMap {β : Type} {m : SortedMap κ α} {g : κ × α → Option β} {k : κ} {v : α}
    {x : β} (hget : m.get? k = some v) (hx : g (k, v) = some x)
    (hlast : ∀ e ∈ m.toList, compare k e.1 = .lt → g e = none) :
    (m.toList.filterMap g).getLast? = some x := by
  obtain ⟨before, after, hlist⟩ := List.append_of_mem ((mem_toList_iff m k v).2 hget)
  have hsorted := m.sorted
  rw [hlist, List.pairwise_append, List.pairwise_cons] at hsorted
  have hafter : after.filterMap g = [] := by
    rw [List.filterMap_eq_nil_iff]
    intro e he
    exact hlast e (by rw [hlist]; simp [he]) (hsorted.2.1.1 e he)
  rw [hlist, List.filterMap_append, List.filterMap_cons_some hx, hafter, List.getLast?_concat]

/-! ## Searching -/

omit [Std.TransOrd κ] [Std.LawfulEqOrd κ] in
/-- Those of a row that have the least key in it. -/
def leastBy {β : Type} (key : β → κ) (l : List β) : List β :=
  l.filter fun b => l.all fun b' => (compare (key b) (key b')).isLE

omit [Std.TransOrd κ] [Std.LawfulEqOrd κ] in
theorem leastBy_map {β γ : Type} (f : β → γ) (key : γ → κ) (l : List β) :
    leastBy key (l.map f) = (leastBy (key ∘ f) l).map f := by
  simp [leastBy, List.filter_map, List.all_map, Function.comp_def]

omit [Std.LawfulEqOrd κ] in
/-- The last of those with the least key is one after which all keys are greater, and before which
none is less. -/
theorem getLast?_leastBy {β : Type} {key : β → κ} {before after : List β} {b : β}
    (hbefore : ∀ b' ∈ before, (compare (key b) (key b')).isLE = true)
    (hafter : ∀ b' ∈ after, compare (key b) (key b') = .lt) :
    (leastBy key (before ++ b :: after)).getLast? = some b := by
  have hleast : ∀ b' ∈ before ++ b :: after, (compare (key b) (key b')).isLE = true := by
    intro b' hb'
    rw [List.mem_append, List.mem_cons] at hb'
    rcases hb' with hb' | rfl | hb'
    · exact hbefore b' hb'
    · rw [Std.compare_self]
      rfl
    · rw [hafter b' hb']
      rfl
  have hrest : (after.filter fun b' =>
      (before ++ b :: after).all fun c => (compare (key b') (key c)).isLE) = [] := by
    rw [List.filter_eq_nil_iff]
    intro b' hb' hall
    have hle := List.all_eq_true.1 hall b (by simp)
    rw [Std.OrientedCmp.gt_of_lt (hafter b' hb')] at hle
    cases hle
  rw [leastBy, List.filter_append, List.filter_cons, if_pos (List.all_eq_true.2 hleast), hrest,
    List.getLast?_concat]

/-- **The first key that is looked for** in the map of some entries is the least of these, and has
the value of its last entry. -/
theorem find?_toList_ofList [BEq κ] [LawfulBEq κ] (p : κ → Bool) (entries : List (κ × α)) :
    (ofList entries).toList.find? (fun e => p e.1) =
      (leastBy Prod.fst (entries.filter fun e => p e.1)).getLast? := by
  have hkey : ∀ e ∈ entries, ∃ v, (e.1, v) ∈ (ofList entries).toList := by
    intro e he
    cases hget : (ofList entries).get? e.1 with
    | some v => exact ⟨v, (mem_toList_iff _ _ _).2 hget⟩
    | none =>
      rw [get?_ofList, List.lookup_eq_none_iff] at hget
      simpa using hget e (List.mem_reverse.2 he)
  cases hfind : (ofList entries).toList.find? (fun e => p e.1) with
  | none =>
    have hnone : (entries.filter fun e => p e.1) = [] := by
      rw [List.filter_eq_nil_iff]
      intro e he
      obtain ⟨v, hv⟩ := hkey e he
      exact List.find?_eq_none.1 hfind (e.1, v) hv
    rw [hnone]
    rfl
  | some e =>
    obtain ⟨k, v⟩ := e
    obtain ⟨hp, smaller, greater, hlist, hsmaller⟩ := List.find?_eq_some_iff_append.1 hfind
    have hsorted := (ofList entries).sorted
    rw [hlist, List.pairwise_append, List.pairwise_cons] at hsorted
    have hleast : ∀ e ∈ entries, p e.1 = true → k = e.1 ∨ compare k e.1 = .lt := by
      intro e he hpe
      obtain ⟨w, hw⟩ := hkey e he
      rw [hlist, List.mem_append, List.mem_cons] at hw
      rcases hw with hw | hw | hw
      · have hnot := hsmaller (e.1, w) hw
        rw [hpe] at hnot
        cases hnot
      · exact .inl (Prod.mk.inj hw).1.symm
      · exact .inr (hsorted.2.1.1 (e.1, w) hw)
    -- The value is that of the last entry with this key.
    have hget : (ofList entries).get? k = some v :=
      (mem_toList_iff _ _ _).1 (by rw [hlist]; simp)
    rw [get?_ofList] at hget
    obtain ⟨after, before, hreverse, hafter⟩ := List.lookup_eq_some_iff.1 hget
    have hentries : entries = before.reverse ++ (k, v) :: after.reverse := by
      rw [← List.reverse_reverse entries, hreverse]
      simp
    rw [hentries, List.filter_append, List.filter_cons, if_pos hp, eq_comm]
    refine getLast?_leastBy (fun e he => ?_) fun e he => ?_
    · obtain ⟨he, hpe⟩ := List.mem_filter.1 he
      rcases hleast e (by rw [hentries]; exact List.mem_append_left _ he) hpe with heq | hlt
      · rw [← heq, Std.compare_self]
        rfl
      · rw [hlt]
        rfl
    · obtain ⟨he, hpe⟩ := List.mem_filter.1 he
      have hne := hafter e (List.mem_reverse.1 he)
      rcases hleast e (by rw [hentries]; simp [List.mem_reverse.1 he]) hpe with heq | hlt
      · simp [heq] at hne
      · exact hlt

/-! ## Traversing -/

section Traversing

variable {β ε : Type} {f : κ → α → Except ε β}

omit [Std.TransOrd κ] in
/-- What was made of an entry is found under its key. -/
theorem lookup_traverseEntries {l : List (κ × α)} {l' : List (κ × β)}
    (h : traverseEntries f l = .ok l') {k : κ} {v : α} (hv : lookup k l = some v) :
    ∃ w, f k v = .ok w ∧ lookup k l' = some w := by
  induction l generalizing l' with
  | nil => cases hv
  | cons e l ih =>
    obtain ⟨k', v'⟩ := e
    rw [traverseEntries] at h
    split at h
    · cases h
    · next w hw =>
      split at h
      · cases h
      · next rest hrest =>
        obtain rfl := Except.ok.inj h
        rw [lookup] at hv
        rw [lookup]
        split at hv
        · next hk =>
          obtain rfl := Std.LawfulEqCmp.eq_of_compare hk
          obtain rfl := Option.some.inj hv
          exact ⟨w, hw, by rw [if_pos hk]⟩
        · next hk =>
          rw [if_neg hk]
          exact ih hrest hv

omit [Ord κ] [Std.TransOrd κ] [Std.LawfulEqOrd κ] in
/-- A failure is that of an entry before which all entries succeed. -/
theorem traverseEntries_eq_error {l : List (κ × α)} {e : ε}
    (h : traverseEntries f l = .error e) :
    ∃ before k v after, l = before ++ (k, v) :: after ∧ f k v = .error e ∧
      ∀ a ∈ before, ∃ w, f a.1 a.2 = .ok w := by
  induction l with
  | nil => cases h
  | cons a l ih =>
    obtain ⟨k, v⟩ := a
    rw [traverseEntries] at h
    split at h
    · next e' he =>
      obtain rfl := Except.error.inj h
      exact ⟨[], k, v, l, rfl, he, by simp⟩
    · next w hw =>
      split at h
      · next e' hrest =>
        obtain rfl := Except.error.inj h
        obtain ⟨before, k', v', after, rfl, hfail, hbefore⟩ := ih hrest
        refine ⟨(k, v) :: before, k', v', after, rfl, hfail, ?_⟩
        rintro a ha
        rcases List.mem_cons.1 ha with rfl | ha
        · exact ⟨w, hw⟩
        · exact hbefore a ha
      · cases h

omit [Std.TransOrd κ] in
/-- A traversed map has the same keys, and under each of them what was made of the value there. -/
theorem traverse_eq_ok {m : SortedMap κ α} {m' : SortedMap κ β} (h : m.traverse f = .ok m') :
    m'.keys = m.keys ∧ ∀ k v, m.get? k = some v → ∃ w, f k v = .ok w ∧ m'.get? k = some w := by
  unfold traverse at h
  split at h
  · cases h
  · next l hl =>
    obtain rfl := Except.ok.inj h
    exact ⟨map_fst_traverseEntries hl, fun k v hv => lookup_traverseEntries hl hv⟩

/-- A failure of a traversal is that of the least key whose value fails. -/
theorem traverse_eq_error {m : SortedMap κ α} {e : ε} (h : m.traverse f = .error e) :
    ∃ k v, m.get? k = some v ∧ f k v = .error e ∧
      ∀ k' v', m.get? k' = some v' → compare k' k = .lt → ∃ w, f k' v' = .ok w := by
  unfold traverse at h
  split at h
  · next e' he =>
    obtain rfl := Except.error.inj h
    obtain ⟨before, k, v, after, hlist, hfail, hbefore⟩ := traverseEntries_eq_error he
    refine ⟨k, v, (mem_toList_iff m k v).1 (by rw [hlist]; simp), hfail, fun k' v' hv' hlt => ?_⟩
    exact hbefore _ ((mem_before_iff hlist k' v').2 ⟨hv', hlt⟩)
  · cases h

end Traversing

/-! ## Properties of all values -/

section Everywhere

omit [Std.TransOrd κ] [Std.LawfulEqOrd κ]

/-- Every value of the map has the property. -/
def All (p : α → Prop) (m : SortedMap κ α) : Prop := ∀ e ∈ m.toList, p e.2

instance (p : α → Prop) [DecidablePred p] (m : SortedMap κ α) : Decidable (m.All p) :=
  @List.decidableBAll (κ × α) (fun e => p e.2) (fun e => inferInstanceAs (Decidable (p e.2))) m.toList

theorem all_empty (p : α → Prop) : (empty : SortedMap κ α).All p := by
  intro e he
  cases he

variable [Std.LawfulEqOrd κ]

/-- All values are those that lookups find. -/
theorem all_iff {p : α → Prop} {m : SortedMap κ α} : m.All p ↔ ∀ k v, m.get? k = some v → p v := by
  constructor
  · intro h k v hv
    exact h (k, v) ((mem_toList_iff m k v).2 hv)
  · rintro h ⟨k, v⟩ he
    exact h k v ((mem_toList_iff m k v).1 he)

/-- A property of all values of two maps is one of all values of the merged map, when combining
values keeps it. -/
theorem All.mergeWith [Std.TransOrd κ] {p : α → Prop} {f : α → α → α}
    (hf : ∀ x y, p x → p y → p (f x y)) {a b : SortedMap κ α} (ha : a.All p) (hb : b.All p) :
    (SortedMap.mergeWith f a b).All p := by
  rw [all_iff] at ha hb ⊢
  intro k v hv
  rw [get?_mergeWith] at hv
  cases hx : a.get? k with
  | none =>
    rw [hx, Option.merge_none_left] at hv
    exact hb k v hv
  | some x =>
    cases hy : b.get? k with
    | none =>
      rw [hx, hy, Option.merge_none_right] at hv
      obtain rfl := Option.some.inj hv
      exact ha k x hx
    | some y =>
      rw [hx, hy] at hv
      obtain rfl := Option.some.inj hv
      exact hf x y (ha k x hx) (hb k y hy)

/-- What each value of a map leads to under its key has a property, and so has every value of a
map with the same keys. -/
theorem all_of_keys {β : Type} {p : β → Prop} {m : SortedMap κ α} {m' : SortedMap κ β}
    (hkeys : m'.keys = m.keys)
    (h : ∀ k v, m.get? k = some v → ∃ w, m'.get? k = some w ∧ p w) : m'.All p := by
  rw [all_iff]
  intro k w hw
  have hk : k ∈ m.keys := hkeys ▸ (mem_keys_iff m' k).2 ⟨w, hw⟩
  obtain ⟨v, hv⟩ := (mem_keys_iff m k).1 hk
  obtain ⟨w', hw', hp⟩ := h k v hv
  obtain rfl := Option.some.inj (hw.symm.trans hw')
  exact hp

end Everywhere

end ModelProbe.SortedMap
