/-!
# Finite maps in key order

A map is its list of entries in strictly increasing key order, so equal maps have equal lists,
and listing a map needs no sorting.

* `get?_insertWith`: what a lookup finds after an insertion.
-/

namespace ModelProbe

/-- A finite map from `κ` to `α`, listed by increasing key. -/
structure SortedMap (κ : Type) (α : Type) [Ord κ] where
  /-- The entries, by increasing key. -/
  toList : List (κ × α)
  /-- Keys increase strictly. -/
  sorted : toList.Pairwise fun a b => compare a.1 b.1 = .lt
  deriving DecidableEq

namespace SortedMap

variable {κ α β : Type} [Ord κ]

/-- The map without entries. -/
def empty : SortedMap κ α := ⟨[], .nil⟩

instance : Inhabited (SortedMap κ α) := ⟨empty⟩

/-- Whether the map has no entries. -/
def isEmpty (m : SortedMap κ α) : Bool := m.toList.isEmpty

/-- The number of entries. -/
def size (m : SortedMap κ α) : Nat := m.toList.length

/-- The keys, increasing. -/
def keys (m : SortedMap κ α) : List κ := m.toList.map Prod.fst

/-! ## Lookup -/

/-- The value of the first entry with this key. -/
def lookup (k : κ) : List (κ × α) → Option α
  | [] => none
  | (k', v) :: rest => if compare k k' = .eq then some v else lookup k rest

/-- The value stored under a key. -/
def get? (m : SortedMap κ α) (k : κ) : Option α := lookup k m.toList

/-- Whether the key has a value. -/
def contains (m : SortedMap κ α) (k : κ) : Bool := (m.get? k).isSome

/-! ## Insertion -/

/-- Puts `v` under `k` in a sorted list; a value that is already there is combined with it. -/
def insertEntry (f : α → α → α) (k : κ) (v : α) : List (κ × α) → List (κ × α)
  | [] => [(k, v)]
  | (k', v') :: rest =>
    match compare k k' with
    | .lt => (k, v) :: (k', v') :: rest
    | .eq => (k', f v' v) :: rest
    | .gt => (k', v') :: insertEntry f k v rest

theorem mem_insertEntry {f : α → α → α} {k : κ} {v : α} {l : List (κ × α)} {e : κ × α}
    (h : e ∈ insertEntry f k v l) : e.1 = k ∨ ∃ e' ∈ l, e'.1 = e.1 := by
  induction l with
  | nil => simp [insertEntry] at h; simp [h]
  | cons a rest ih =>
    obtain ⟨k', v'⟩ := a
    rw [insertEntry] at h
    split at h
    · rcases List.mem_cons.1 h with rfl | h
      · exact .inl rfl
      · exact .inr ⟨e, h, rfl⟩
    · rcases List.mem_cons.1 h with rfl | h
      · exact .inr ⟨(k', v'), by simp, rfl⟩
      · exact .inr ⟨e, List.mem_cons_of_mem _ h, rfl⟩
    · rcases List.mem_cons.1 h with rfl | h
      · exact .inr ⟨(k', v'), by simp, rfl⟩
      · rcases ih h with h | ⟨e', he', h⟩
        · exact .inl h
        · exact .inr ⟨e', List.mem_cons_of_mem _ he', h⟩

variable [Std.TransOrd κ]

theorem pairwise_insertEntry (f : α → α → α) (k : κ) (v : α) {l : List (κ × α)}
    (hl : l.Pairwise fun a b => compare a.1 b.1 = .lt) :
    (insertEntry f k v l).Pairwise fun a b => compare a.1 b.1 = .lt := by
  induction l with
  | nil => simp [insertEntry]
  | cons a rest ih =>
    obtain ⟨k', v'⟩ := a
    rw [List.pairwise_cons] at hl
    rw [insertEntry]
    split
    next h =>
      rw [List.pairwise_cons]
      refine ⟨fun e he => ?_, List.pairwise_cons.2 hl⟩
      rcases List.mem_cons.1 he with rfl | he
      · exact h
      · exact Std.TransCmp.lt_trans h (hl.1 e he)
    next => exact List.pairwise_cons.2 hl
    next h =>
      rw [List.pairwise_cons]
      refine ⟨fun e he => ?_, ih hl.2⟩
      rcases mem_insertEntry he with h' | ⟨e', he', h'⟩
      · simpa [h'] using Std.OrientedCmp.lt_of_gt h
      · simpa [← h'] using hl.1 e' he'

/-- Puts `v` under `k`; a value that is already there is combined with it. -/
def insertWith (f : α → α → α) (m : SortedMap κ α) (k : κ) (v : α) : SortedMap κ α :=
  ⟨insertEntry f k v m.toList, pairwise_insertEntry f k v m.sorted⟩

/-- Puts `v` under `k`, in place of what was there. -/
def insert (m : SortedMap κ α) (k : κ) (v : α) : SortedMap κ α :=
  m.insertWith (fun _ new => new) k v

/-- The map of the entries, where the last of equal keys counts. -/
def ofList (entries : List (κ × α)) : SortedMap κ α :=
  entries.foldl (fun m (k, v) => m.insert k v) empty

/-- The entries of both maps; a key of both has its values combined. -/
def mergeWith (f : α → α → α) (a b : SortedMap κ α) : SortedMap κ α :=
  b.toList.foldl (fun m (k, v) => m.insertWith f k v) a

/-- The entries of both maps, where the second map decides about a key of both. -/
def union (a b : SortedMap κ α) : SortedMap κ α :=
  mergeWith (fun _ new => new) a b

omit [Std.TransOrd κ] in
/-- The map with a function applied to every value. -/
def map (f : α → β) (m : SortedMap κ α) : SortedMap κ β :=
  ⟨m.toList.map fun (k, v) => (k, f v), by
    rw [List.pairwise_map]; exact m.sorted⟩

/-- Applies a function that may fail to every value of a list of entries. -/
def traverseEntries {ε : Type} (f : κ → α → Except ε β) :
    List (κ × α) → Except ε (List (κ × β))
  | [] => .ok []
  | (k, v) :: rest =>
    match f k v with
    | .error e => .error e
    | .ok v' =>
      match traverseEntries f rest with
      | .error e => .error e
      | .ok rest' => .ok ((k, v') :: rest')

omit [Ord κ] [Std.TransOrd κ] in
theorem map_fst_traverseEntries {ε : Type} {f : κ → α → Except ε β} {l : List (κ × α)}
    {l' : List (κ × β)} (h : traverseEntries f l = .ok l') :
    l'.map Prod.fst = l.map Prod.fst := by
  induction l generalizing l' with
  | nil => simp [traverseEntries] at h; simp [← h]
  | cons e rest ih =>
    obtain ⟨k, v⟩ := e
    rw [traverseEntries] at h
    split at h
    · simp at h
    · split at h
      · simp at h
      · next hr => simp at h; simp [← h, ih hr]

omit [Std.TransOrd κ] in
/-- Applies a function that may fail to every value, by increasing key, up to its first failure. -/
def traverse {ε : Type} (f : κ → α → Except ε β) (m : SortedMap κ α) :
    Except ε (SortedMap κ β) :=
  match h : traverseEntries f m.toList with
  | .error e => .error e
  | .ok l => .ok ⟨l, by
      have hm := m.sorted
      rw [← List.pairwise_map (f := Prod.fst) (R := fun a b => compare a b = .lt)] at hm ⊢
      rw [map_fst_traverseEntries h]; exact hm⟩

/-! ## What lookups find -/

variable [Std.LawfulEqOrd κ]

theorem lookup_insertEntry (f : α → α → α) (k k' : κ) (v : α) (l : List (κ × α))
    (hl : l.Pairwise fun a b => compare a.1 b.1 = .lt) :
    lookup k' (insertEntry f k v l) =
      if compare k' k = .eq then
        some (match lookup k l with | some old => f old v | none => v)
      else lookup k' l := by
  induction l with
  | nil => simp [insertEntry, lookup]
  | cons a rest ih =>
    obtain ⟨k₁, v₁⟩ := a
    rw [List.pairwise_cons] at hl
    have above : ∀ k, compare k k₁ ≠ .gt → lookup k rest = none := by
      intro k hk
      have : ∀ l : List (κ × α), (∀ e ∈ l, compare k₁ e.1 = .lt) → lookup k l = none := by
        intro l
        induction l with
        | nil => intro _; rfl
        | cons e l ihl =>
          intro h
          have he := h e (by simp)
          have : compare k e.1 = .lt := by
            cases hk' : compare k k₁ with
            | lt => exact Std.TransCmp.lt_trans hk' he
            | eq => rw [Std.LawfulEqCmp.eq_of_compare hk']; exact he
            | gt => exact absurd hk' hk
          rw [lookup, if_neg (by simp [this])]
          exact ihl fun e' he' => h e' (by simp [he'])
      exact this rest hl.1
    rw [insertEntry]
    split
    next h =>
      have hk : lookup k ((k₁, v₁) :: rest) = none := by
        rw [lookup, if_neg (by simp [h])]; exact above k (by simp [h])
      simp only [hk]
      rw [lookup]
    next h =>
      cases Std.LawfulEqCmp.eq_of_compare h
      by_cases hk' : compare k' k = .eq <;> simp [lookup, hk']
    next h =>
      have hne : compare k k₁ ≠ .eq := by simp [h]
      rw [lookup, ih hl.2]
      by_cases hk' : compare k' k₁ = .eq
      · cases Std.LawfulEqCmp.eq_of_compare hk'
        have : compare k' k ≠ .eq := by
          intro hc; rw [Std.LawfulEqCmp.eq_of_compare hc] at h; simp at h
        simp [lookup, this]
      · simp [lookup, hk', hne]

theorem get?_insertWith (f : α → α → α) (m : SortedMap κ α) (k k' : κ) (v : α) :
    (m.insertWith f k v).get? k' =
      if compare k' k = .eq then
        some (match m.get? k with | some old => f old v | none => v)
      else m.get? k' :=
  lookup_insertEntry f k k' v m.toList m.sorted

theorem get?_insert (m : SortedMap κ α) (k k' : κ) (v : α) :
    (m.insert k v).get? k' = if compare k' k = .eq then some v else m.get? k' := by
  rw [insert, get?_insertWith]
  split
  · cases m.get? k <;> rfl
  · rfl

omit [Std.TransOrd κ] [Std.LawfulEqOrd κ] in
@[simp] theorem get?_empty (k : κ) : (empty : SortedMap κ α).get? k = none := rfl

end SortedMap

end ModelProbe
