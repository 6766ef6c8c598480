import ModelProbe.Proofs.Json.Locate
import ModelProbe.Proofs.Json.Row
/-!
# Members in order

In every object that is read, at any depth, the members stand by increasing name, each name once.

* `ordered_ofMembers`: objects that are made of ordered values are ordered.
* `ordered_of_ofChars?`: a value that is read is ordered.
-/

namespace ModelProbe.Json

/-- In all objects inside a value, the members stand by increasing name. -/
inductive Ordered : Json → Prop
  | plain {v : Json} (h : v.isNested = false) : Ordered v
  | array {items : List Json} (each : ∀ v ∈ items, Ordered v) : Ordered (array items)
  | object {members : List (String × Json)}
      (sorted : members.Pairwise fun a b => compare a.1 b.1 = .lt)
      (each : ∀ e ∈ members, Ordered e.2) : Ordered (object members)

/-- The items of an ordered array are ordered. -/
theorem Ordered.of_mem_items {items : List Json} (h : Ordered (Json.array items)) :
    ∀ v ∈ items, Ordered v := by
  cases h with
  | plain h => cases h
  | array each => exact each

/-- The members of an ordered object stand by increasing name. -/
theorem Ordered.sorted {members : List (String × Json)} (h : Ordered (Json.object members)) :
    members.Pairwise fun a b => compare a.1 b.1 = .lt := by
  cases h with
  | plain h => cases h
  | object sorted each => exact sorted

/-- The members of an ordered object are ordered. -/
theorem Ordered.of_mem_members {members : List (String × Json)}
    (h : Ordered (Json.object members)) : ∀ e ∈ members, Ordered e.2 := by
  cases h with
  | plain h => cases h
  | object sorted each => exact each

/-! ## Objects -/

/-- The object of a map of ordered values is ordered. -/
theorem ordered_toList {m : JsonObject} (h : ∀ name v, m.get? name = some v → Ordered v) :
    Ordered (object m.toList) :=
  .object m.sorted fun e he => h e.1 e.2 ((SortedMap.mem_toList_iff m e.1 e.2).1 he)

/-- **An object that is made of ordered values is ordered**, whatever the order of its members. -/
theorem ordered_ofMembers {members : List (String × Json)} (h : ∀ e ∈ members, Ordered e.2) :
    Ordered (ofMembers members) := by
  refine ordered_toList fun name v hv => ?_
  rw [SortedMap.get?_ofList] at hv
  have hmem : (name, v) ∈ members.reverse := SortedMap.mem_of_lookup_eq_some hv
  exact h (name, v) (List.mem_reverse.1 hmem)

/-! ## Reading -/

/-- What a reader of items returns is ordered. -/
def ReadsOrdered (item : ItemReader) : Prop :=
  ∀ {s rest : List Char} {v : Json}, item s = some (v, rest) → Ordered v

/-- Items that are read one after another are ordered. -/
theorem ordered_of_readItems? {item : ItemReader} (hitem : ReadsOrdered item) :
    ∀ (fuel : Nat) {s rest : List Char} {vs : List Json},
      readItems? item fuel s = some (vs, rest) → ∀ v ∈ vs, Ordered v := by
  intro fuel
  induction fuel with
  | zero => intro s rest vs h; cases h
  | succ fuel ih =>
    intro s rest vs h
    rw [readItems?] at h
    split at h
    · cases h
    · next w after hw =>
      split at h
      · obtain ⟨⟨ws, left⟩, hmore, heq⟩ := Option.map_eq_some_iff.1 h
        obtain ⟨rfl, -⟩ := Prod.mk.inj heq
        exact List.forall_mem_cons.2 ⟨hitem hw, ih hmore⟩
      · obtain ⟨rfl, -⟩ := Prod.mk.inj (Option.some.inj h)
        exact List.forall_mem_singleton.2 (hitem hw)
      · cases h

/-- The values of members that are read one after another are ordered. -/
theorem ordered_of_readMembers? {item : ItemReader} (hitem : ReadsOrdered item) :
    ∀ (fuel : Nat) {s rest : List Char} {ms : List (String × Json)},
      readMembers? item fuel s = some (ms, rest) → ∀ e ∈ ms, Ordered e.2 := by
  intro fuel
  induction fuel with
  | zero => intro s rest ms h; cases h
  | succ fuel ih =>
    intro s rest ms h
    rw [readMembers?] at h
    split at h
    · cases h
    · next name afterName hname =>
      split at h
      · cases h
      · next w after hw =>
        split at h
        · obtain ⟨⟨ns, left⟩, hmore, heq⟩ := Option.map_eq_some_iff.1 h
          obtain ⟨rfl, -⟩ := Prod.mk.inj heq
          exact List.forall_mem_cons.2 ⟨hitem hw, ih hmore⟩
        · obtain ⟨rfl, -⟩ := Prod.mk.inj (Option.some.inj h)
          exact List.forall_mem_singleton.2 (hitem hw)
        · cases h

/-- A value is read with its members in order, when the values inside it are. -/
theorem readsOrdered_of_inner (depth : Nat)
    (ih : ∀ d, depth = d + 1 → ReadsOrdered (readValue? d)) : ReadsOrdered (readValue? depth) := by
  intro s rest v h
  rw [readValue?.eq_def] at h
  dsimp only at h
  split at h
  · obtain ⟨rfl, -⟩ := Prod.mk.inj (Option.some.inj h)
    exact .plain rfl
  · obtain ⟨rfl, -⟩ := Prod.mk.inj (Option.some.inj h)
    exact .plain rfl
  · obtain ⟨rfl, -⟩ := Prod.mk.inj (Option.some.inj h)
    exact .plain rfl
  · obtain ⟨read, -, heq⟩ := Option.map_eq_some_iff.1 h
    obtain ⟨rfl, -⟩ := Prod.mk.inj heq
    exact .plain rfl
  · split at h
    · cases h
    · next d =>
      split at h
      · obtain ⟨rfl, -⟩ := Prod.mk.inj (Option.some.inj h)
        exact .array fun v hv => absurd hv List.not_mem_nil
      · obtain ⟨⟨vs, left⟩, hitems, heq⟩ := Option.map_eq_some_iff.1 h
        obtain ⟨rfl, -⟩ := Prod.mk.inj heq
        exact .array (ordered_of_readItems? (ih d rfl) _ hitems)
  · split at h
    · cases h
    · next d =>
      split at h
      · obtain ⟨rfl, -⟩ := Prod.mk.inj (Option.some.inj h)
        exact .object .nil fun e he => absurd he List.not_mem_nil
      · obtain ⟨⟨ms, left⟩, hmembers, heq⟩ := Option.map_eq_some_iff.1 h
        obtain ⟨rfl, -⟩ := Prod.mk.inj heq
        exact ordered_ofMembers (ordered_of_readMembers? (ih d rfl) _ hmembers)
  · obtain ⟨read, -, heq⟩ := Option.map_eq_some_iff.1 h
    obtain ⟨rfl, -⟩ := Prod.mk.inj heq
    exact .plain rfl

/-- Values are read with their members in order, at any depth. -/
theorem readsOrdered_readValue? (depth : Nat) : ReadsOrdered (readValue? depth) := by
  induction depth with
  | zero => exact readsOrdered_of_inner 0 fun d hd => absurd hd (by omega)
  | succ depth ih =>
    refine readsOrdered_of_inner (depth + 1) fun d hd => ?_
    obtain rfl : depth = d := by omega
    exact ih

/-- **A value that is read is ordered.** -/
theorem ordered_of_ofChars? {s : List Char} {v : Json} (h : ofChars? s = some v) : Ordered v := by
  obtain ⟨rest, hread, -⟩ := ofChars?_eq_some_iff.1 h
  exact readsOrdered_readValue? _ hread

/-! ## Below -/

/-- What stands inside an ordered value is ordered. -/
theorem Ordered.of_under {key : String} {v root : Json} (hroot : Ordered root)
    (h : Under key v root) : Ordered v := by
  induction h with
  | member h => exact hroot.of_mem_members _ (SortedMap.mem_of_lookup h)
  | inMember hw _ ih => exact ih (hroot.of_mem_members _ hw)
  | inItem hw _ ih => exact ih (hroot.of_mem_items _ hw)

end ModelProbe.Json
