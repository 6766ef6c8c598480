import Mathlib.Data.List.Forall2
import ModelProbe.Json.Reader
import ModelProbe.Proofs.SortedMap
/-!
# The strings of a value

A function may be applied to all strings of a value, at any depth, while the names of members and
everything else stay. Of a text without backslashes, the characters of a string are those between
its quotes.

* `Mapped.ofMembers`: the strings in the members of an object, also when several members have one
  name.
* `readString?_verbatim`: a string that is written without escapes is read as it stands.
-/

namespace ModelProbe.Json

/-! ## Changing the strings -/

mutual

/-- The value with a function applied to each of its strings. -/
def mapStrings (f : String → String) : Json → Json
  | null => null
  | bool b => bool b
  | number n => number n
  | string s => string (f s)
  | array items => array (mapItems f items)
  | object members => object (mapMembers f members)

/-- The items with a function applied to each of their strings. -/
def mapItems (f : String → String) : List Json → List Json
  | [] => []
  | v :: vs => mapStrings f v :: mapItems f vs

/-- The members with a function applied to each of their strings; their names stay. -/
def mapMembers (f : String → String) : List (String × Json) → List (String × Json)
  | [] => []
  | (name, v) :: ms => (name, mapStrings f v) :: mapMembers f ms

end

theorem mapItems_eq_map (f : String → String) (items : List Json) :
    mapItems f items = items.map (mapStrings f) := by
  induction items with
  | nil => rfl
  | cons v vs ih => rw [mapItems, ih, List.map_cons]

theorem mapMembers_eq_map (f : String → String) (members : List (String × Json)) :
    mapMembers f members = members.map fun m => (m.1, m.2.mapStrings f) := by
  induction members with
  | nil => rfl
  | cons m ms ih => rw [mapMembers, ih, List.map_cons]

mutual

/-- Whether the names of all members have a property, at any depth. -/
def namesAll (p : String → Bool) : Json → Bool
  | array items => itemsNamesAll p items
  | object members => membersNamesAll p members
  | _ => true

/-- Whether the names of all members in some items have a property. -/
def itemsNamesAll (p : String → Bool) : List Json → Bool
  | [] => true
  | v :: vs => namesAll p v && itemsNamesAll p vs

/-- Whether the names of some members, and of all members inside them, have a property. -/
def membersNamesAll (p : String → Bool) : List (String × Json) → Bool
  | [] => true
  | (name, v) :: ms => p name && namesAll p v && membersNamesAll p ms

end

theorem namesAll_array (p : String → Bool) (items : List Json) :
    (array items).namesAll p = items.all (namesAll p) := by
  rw [namesAll]
  induction items with
  | nil => rfl
  | cons v vs ih => rw [itemsNamesAll, ih, List.all_cons]

theorem namesAll_object (p : String → Bool) (members : List (String × Json)) :
    (object members).namesAll p = members.all fun m => p m.1 && m.2.namesAll p := by
  rw [namesAll]
  induction members with
  | nil => rfl
  | cons m ms ih => rw [membersNamesAll, ih, List.all_cons]

/-! ## Values with changed strings -/

/-- The second value is the first one with its strings changed, if the names in that have the
property. Of a value that another one with its name has replaced, the names need not have it. -/
def Mapped (f : String → String) (p : String → Bool) (v w : Json) : Prop :=
  v.namesAll p = true → w = v.mapStrings f

variable {f g : String → String} {p : String → Bool}

/-- Items with changed strings make up an array with changed strings. -/
theorem Mapped.array {vs ws : List Json} (h : List.Forall₂ (Mapped f p) vs ws) :
    Mapped f p (array vs) (array ws) := by
  intro hnames
  rw [namesAll_array, List.all_eq_true] at hnames
  rw [mapStrings, mapItems_eq_map]
  congr 1
  induction h with
  | nil => rfl
  | cons hv _ ih =>
    rw [List.map_cons, hv (hnames _ List.mem_cons_self),
      ih fun v hv => hnames v (List.mem_cons_of_mem _ hv)]

/-- The second member has the first one's name, changed, and its value with changed strings. -/
structure MappedMember (f g : String → String) (p : String → Bool) (m n : String × Json) : Prop where
  name : n.1 = g m.1
  value : Mapped f p m.2 n.2

/-- What is found among members with changed strings. -/
theorem lookup_mappedMembers {ms ns : List (String × Json)}
    (h : List.Forall₂ (MappedMember f g p) ms ns) (hg : ∀ m ∈ ms, g m.1 = m.1) (k : String) :
    match ms.lookup k with
    | some v => ∃ w, ns.lookup k = some w ∧ Mapped f p v w
    | none => ns.lookup k = none := by
  induction h with
  | nil => rfl
  | @cons m n ms ns hmember _ ih =>
    have hname : n.1 = m.1 := hmember.name.trans (hg m List.mem_cons_self)
    rw [List.lookup_cons, List.lookup_cons, hname]
    cases k == m.1 with
    | true => exact ⟨n.2, rfl, hmember.value⟩
    | false => exact ih fun m hm => hg m (List.mem_cons_of_mem _ hm)

/-- **Members with changed strings** make up an object with changed strings: of several members with
one name it is the same one that counts. -/
theorem Mapped.ofMembers {ms ns : List (String × Json)}
    (h : List.Forall₂ (MappedMember f g p) ms ns) (hg : ∀ name, p name = true → g name = name) :
    Mapped f p (ofMembers ms) (ofMembers ns) := by
  intro hnames
  rw [Json.ofMembers, namesAll_object, List.all_eq_true] at hnames
  have hkept : ∀ k v, ms.reverse.lookup k = some v → p k = true ∧ v.namesAll p = true := by
    intro k v hv
    rw [← SortedMap.get?_ofList, ← SortedMap.mem_toList_iff] at hv
    exact Bool.and_eq_true_iff.1 (hnames (k, v) hv)
  -- A name that stands somewhere among the members is the name of one that counts.
  have hstay : ∀ m ∈ ms.reverse, g m.1 = m.1 := by
    intro m hm
    cases hv : ms.reverse.lookup m.1 with
    | some v => exact hg m.1 (hkept m.1 v hv).1
    | none => exact absurd (List.lookup_eq_none_iff.1 hv m hm) (by simp)
  have hmap : SortedMap.ofList ns = (SortedMap.ofList ms).map (mapStrings f) := by
    apply SortedMap.ext_get?
    intro k
    have hfound := lookup_mappedMembers (List.forall₂_reverse_iff.2 h) hstay k
    rw [SortedMap.get?_map, SortedMap.get?_ofList, SortedMap.get?_ofList]
    cases hv : ms.reverse.lookup k with
    | none => rw [hv] at hfound; exact hfound
    | some v =>
      rw [hv] at hfound
      obtain ⟨w, hw, hmapped⟩ := hfound
      rw [hw, hmapped (hkept k v hv).2]
      rfl
  rw [Json.ofMembers, Json.ofMembers, mapStrings, mapMembers_eq_map, hmap]
  rfl

/-! ## Strings without escapes -/

/-- The text may stand between quotes as it is: it has no quotes, no backslashes and no control
characters. -/
def Verbatim (s : List Char) : Prop := ∀ c ∈ s, c ≠ '"' ∧ c ≠ '\\' ∧ 32 ≤ c.toNat

instance instDecidableVerbatim (s : List Char) : Decidable (Verbatim s) :=
  List.decidableBAll (fun c => c ≠ '"' ∧ c ≠ '\\' ∧ 32 ≤ c.toNat) s

/-- A string without escapes is read as it stands. -/
theorem readString?_verbatim {s : List Char} (hs : Verbatim s) (rest : List Char) :
    readString? (s ++ '"' :: rest) = some (s, rest) := by
  induction s with
  | nil => rw [List.nil_append, readString?, if_pos rfl]
  | cons c s ih =>
    obtain ⟨hquote, hslash, hcontrol⟩ := hs c List.mem_cons_self
    rw [List.cons_append, readString?, if_neg hquote, if_neg hslash, if_neg (Nat.not_lt.2 hcontrol),
      ih fun d hd => hs d (List.mem_cons_of_mem c hd)]
    rfl

/-- Without backslashes, a string that is read stands as it is before its closing quote. -/
theorem verbatim_of_readString? {s x rest : List Char} (hs : '\\' ∉ s)
    (h : readString? s = some (x, rest)) : s = x ++ '"' :: rest ∧ Verbatim x := by
  induction s generalizing x with
  | nil => rw [readString?] at h; cases h
  | cons c s ih =>
    rw [List.mem_cons, not_or] at hs
    rw [readString?] at h
    by_cases hquote : c = '"'
    · rw [if_pos hquote, Option.some.injEq, Prod.mk.injEq] at h
      obtain ⟨rfl, rfl⟩ := h
      exact ⟨by rw [hquote]; rfl, fun d hd => by cases hd⟩
    · rw [if_neg hquote, if_neg (Ne.symm hs.1)] at h
      split at h
      · cases h
      · next hcontrol =>
        rw [Option.map_eq_some_iff] at h
        obtain ⟨⟨y, last⟩, hy, heq⟩ := h
        rw [Prod.mk.injEq] at heq
        obtain ⟨rfl, rfl⟩ := heq
        obtain ⟨rfl, hverbatim⟩ := ih hs.2 hy
        refine ⟨rfl, fun d hd => ?_⟩
        rcases List.mem_cons.1 hd with rfl | hd
        · exact ⟨hquote, Ne.symm hs.1, Nat.le_of_not_lt hcontrol⟩
        · exact hverbatim d hd

end ModelProbe.Json
