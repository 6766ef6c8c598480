import ModelProbe.Proofs.Pattern.Run
import ModelProbe.Proofs.Pattern.Spans
/-!
# Patterns that are read are counted

The reader refuses a repetition whose least count is above its greatest. So no tree that it makes
asks for more rounds than it allows, and its trees are found just where they describe a span.

* `Place.Counted.step?`: a step of the reader keeps everything counted.
* `counted_of_ofText?`: a pattern that is read is counted.
* `fits_iff_spans`: a pattern is found in a text exactly when it describes a span of it.
-/

namespace ModelProbe.Pattern

/-! ## States -/

/-- Everything that was read so far is counted. -/
structure State.Counted (st : State) : Prop where
  items : ∀ item ∈ st.items, ∀ tree, item.tree = some tree → tree.Counted
  branches : ∀ branch ∈ st.branches, branch.Counted

namespace State.Counted

variable {st inner : State}

/-- Before anything is read. -/
theorem new (modes : Modes) (names : List (List Char)) :
    State.Counted { modes := modes, names := names } where
  items := fun _ hitem => absurd hitem List.not_mem_nil
  branches := fun _ hbranch => absurd hbranch List.not_mem_nil

theorem sequence (h : st.Counted) : st.sequence.Counted := by
  have hall : ∀ tree ∈ st.items.reverse.filterMap Item.tree, tree.Counted := by
    intro tree htree
    obtain ⟨item, hitem, heq⟩ := List.mem_filterMap.1 htree
    exact h.items item (List.mem_reverse.1 hitem) tree heq
  unfold State.sequence
  revert hall
  induction st.items.reverse.filterMap Item.tree with
  | nil => exact fun _ => trivial
  | cons tree trees ih =>
    intro hall
    exact ⟨hall tree List.mem_cons_self, ih fun t ht => hall t (List.mem_cons_of_mem tree ht)⟩

theorem tree (h : st.Counted) : st.tree.Counted := by
  have hrest := h.sequence
  have hall := h.branches
  unfold State.tree
  revert hrest hall
  generalize st.sequence = rest
  induction st.branches generalizing rest with
  | nil => exact fun hrest _ => hrest
  | cons branch branches ih =>
    intro hrest hall
    exact ih (.alt branch rest) ⟨hall branch List.mem_cons_self, hrest⟩
      fun b hb => hall b (List.mem_cons_of_mem branch hb)

theorem add {item : Tree} (h : st.Counted) (htree : item.Counted) (depth : Nat) :
    (st.add item depth).Counted where
  items := by
    intro item hitem t ht
    rcases List.mem_cons.1 hitem with rfl | hold
    · exact Option.some.inj ht ▸ htree
    · exact h.items item hold t ht
  branches := h.branches

theorem change (h : st.Counted) (m : Modes) : (st.change m).Counted where
  items := by
    intro item hitem t ht
    rcases List.mem_cons.1 hitem with rfl | hold
    · cases ht
    · exact h.items item hold t ht
  branches := h.branches

theorem endBranch (h : st.Counted) : st.endBranch.Counted where
  items := fun _ hitem => absurd hitem List.not_mem_nil
  branches := by
    intro branch hbranch
    rcases List.mem_cons.1 hbranch with rfl | hold
    · exact h.sequence
    · exact h.branches branch hold

theorem close (h : st.Counted) (hinner : inner.Counted) : (st.close inner).Counted := by
  have hnamed : State.Counted { st with names := inner.names } := ⟨h.items, h.branches⟩
  exact hnamed.add hinner.tree _

theorem repeatLast? {least : Nat} {most : Option Nat} {st' : State} (h : st.Counted)
    (hmost : ∀ m, most = some m → least ≤ m) (heq : st.repeatLast? least most = some st') :
    st'.Counted := by
  unfold State.repeatLast? at heq
  split at heq
  · next last depth rest hitems =>
    obtain rfl := Option.some.inj heq
    refine ⟨fun item hitem t ht => ?_, h.branches⟩
    rcases List.mem_cons.1 hitem with rfl | hold
    · have hlast := h.items ⟨some last, depth⟩ (hitems ▸ List.mem_cons_self) last rfl
      exact Option.some.inj ht ▸ ⟨hlast, hmost⟩
    · exact h.items item (hitems ▸ List.mem_cons_of_mem _ hold) t ht
  · cases heq

end State.Counted

/-! ## Tokens and steps -/

/-- What a token adds is counted. -/
def Token.Counted : Token → Prop
  | .item tree _ => tree.Counted
  | .times least most => ∀ m, most = some m → least ≤ m
  | _ => True

/-- The counts in braces are in order. -/
theorem le_of_readTimes? {modes : Modes} {s rest : List Char} {least : Nat} {most : Option Nat}
    (h : readTimes? modes s = some (least, most, rest)) : ∀ m, most = some m → least ≤ m := by
  unfold readTimes? at h
  split at h
  · cases h
  · split at h
    · obtain ⟨rfl, hrest⟩ := Prod.mk.inj (Option.some.inj h)
      obtain ⟨rfl, -⟩ := Prod.mk.inj hrest
      rintro m ⟨⟩
      exact Nat.le_refl _
    · split at h
      · obtain ⟨rfl, hrest⟩ := Prod.mk.inj (Option.some.inj h)
        obtain ⟨rfl, -⟩ := Prod.mk.inj hrest
        rintro m ⟨⟩
      · split at h
        · split at h
          · cases h
          · next hle =>
            obtain ⟨rfl, hrest⟩ := Prod.mk.inj (Option.some.inj h)
            obtain ⟨rfl, -⟩ := Prod.mk.inj hrest
            rintro m ⟨⟩
            exact Nat.le_of_not_lt hle
        · cases h
    · cases h

/-- Every token is counted. -/
theorem counted_token? {modes : Modes} {s rest : List Char} {tok : Token}
    (h : token? modes s = some (tok, rest)) : tok.Counted := by
  have hitem : ∀ {α : Type} {x : Option α} {found : α → Token × List Char},
      x.map found = some (tok, rest) → (∀ y, x = some y → (found y).1.Counted) → tok.Counted := by
    intro α x found hx hcounted
    obtain ⟨y, hy, heq⟩ := Option.map_eq_some_iff.1 hx
    have hcounts := hcounted y hy
    rwa [heq] at hcounts
  have hsome : ∀ {t : Token} {r : List Char}, some (t, r) = some (tok, rest) → t.Counted →
      tok.Counted := fun heq ht => (Prod.mk.inj (Option.some.inj heq)).1 ▸ ht
  unfold token? at h
  split at h
  · cases h
  · exact hsome h trivial
  · exact hsome h trivial
  · refine hitem h fun y _ => ?_
    obtain ⟨head, r⟩ := y
    cases head <;> exact trivial
  · exact hitem h fun y _ => trivial
  · exact hsome h (by rintro m ⟨⟩)
  · exact hsome h (by rintro m ⟨⟩)
  · exact hsome h (by rintro m ⟨⟩; exact Nat.zero_le 1)
  · refine hitem h fun y hy => ?_
    obtain ⟨least, most, r⟩ := y
    exact le_of_readTimes? hy
  · refine hitem h fun y hy => ?_
    unfold Modes.dot? at hy
    split at hy
    · cases hy
    · split at hy
      · exact Option.some.inj hy ▸ trivial
      · split at hy <;> exact Option.some.inj hy ▸ trivial
  · exact hsome h trivial
  · exact hsome h trivial
  · refine hitem h fun y _ => ?_
    obtain ⟨escape, r⟩ := y
    cases escape <;> exact trivial
  · exact hsome h trivial

/-- Everything that was read so far is counted, in the current group and around it. -/
structure Place.Counted (p : Place) : Prop where
  current : p.current.Counted
  outer : ∀ st ∈ p.outer, st.Counted

/-- A step keeps everything counted. -/
theorem Place.Counted.step? {p q : Place} {s rest : List Char} (h : p.Counted)
    (hstep : step? (p, s) = some (q, rest)) : q.Counted := by
  obtain ⟨c, t, tok, -, htok, hnext⟩ := step?_eq_some_iff.1 hstep
  have hcounted := counted_token? htok
  cases tok with
  | close =>
    unfold Place.next? at hnext
    dsimp only at hnext
    split at hnext
    · cases hnext
    · next st outer houter =>
      obtain rfl := Option.some.inj hnext
      have hall : ∀ st' ∈ st :: outer, st'.Counted := houter ▸ h.outer
      exact ⟨(hall st List.mem_cons_self).close h.current,
        fun st' hst' => hall st' (List.mem_cons_of_mem st hst')⟩
  | opening m name =>
    unfold Place.next? at hnext
    dsimp only at hnext
    split at hnext
    · cases hnext
    · obtain rfl := Option.some.inj hnext
      refine ⟨.new _ _, fun st' hst' => ?_⟩
      rcases List.mem_cons.1 hst' with rfl | hold
      · exact h.current
      · exact h.outer st' hold
  | branch =>
    obtain rfl := Option.some.inj hnext
    exact ⟨h.current.endBranch, h.outer⟩
  | change m =>
    obtain rfl := Option.some.inj hnext
    exact ⟨h.current.change m, h.outer⟩
  | item tree depth =>
    obtain rfl := Option.some.inj hnext
    exact ⟨h.current.add hcounted depth, h.outer⟩
  | times least most =>
    obtain ⟨st, hst, rfl⟩ := Option.map_eq_some_iff.1 hnext
    exact ⟨h.current.repeatLast? hcounted hst, h.outer⟩

/-- Steps keep everything counted. -/
theorem Place.Counted.reaches {p q : Place × List Char} (h : p.1.Counted) (hreach : Reaches p q) :
    q.1.Counted := by
  induction hreach using Relation.ReflTransGen.head_induction_on with
  | refl => exact h
  | head hstep _ ih => exact ih (h.step? hstep)

/-! ## Patterns -/

/-- A pattern that is read is counted. -/
theorem counted_of_ofText? {limit : Limit} {s : String} {p : ModelProbe.Pattern}
    (h : ofText? limit s = some p) : p.tree.Counted := by
  obtain ⟨tree, htree, rfl⟩ := Option.map_eq_some_iff.1 h
  obtain ⟨st, ⟨s', hreach, -⟩, rfl⟩ := exists_readsTo_of_ofChars? htree
  have hstart : Place.start.Counted := ⟨.new _ _, fun _ hst => absurd hst List.not_mem_nil⟩
  exact (hstart.reaches hreach).current.tree

/-- **A pattern is found in a text exactly when it describes a span of it.** -/
theorem fits_iff_spans {limit : Limit} {s : String} {p : ModelProbe.Pattern}
    (h : ofText? limit s = some p) (text : List Char) :
    p.tree.fits text = true ↔ ∃ i ≤ text.length, ∃ j, Spans text p.tree i j :=
  (counted_of_ofText? h).fits_iff text

end ModelProbe.Pattern
