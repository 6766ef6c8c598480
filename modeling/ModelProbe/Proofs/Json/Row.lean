import ModelProbe.Proofs.Json.Extent
/-!
# Values in a row

A text begins with some JSON documents, one after another, when each is written where the one before
it ends. Reading stops before the first piece that is no document.

* `mem_rowOfChars_iff`: exactly the documents of the row are read.
-/

namespace ModelProbe.Json

/-- A document stands in the row of documents that a text begins with: first, or after others. -/
inductive InRow (v : Json) : List Char → Prop
  | here {written rest : List Char} (hread : ofChars? written = some v)
      (hends : EndsBefore v rest) : InRow v (written ++ rest)
  | later {written rest : List Char} {w : Json} (hread : ofChars? written = some w)
      (hends : EndsBefore w rest) (h : InRow v rest) : InRow v (written ++ rest)

/-! ## One document -/

/-- Whether this character opens a string, an array or an object. -/
def opensClosed (c : Char) : Bool := c == '"' || c == '[' || c == '\x7b'

/-- What is read between two signs is closed, whether or not anything stands between them. -/
theorem Enclosed.isClosed {α : Type} {opening closing : Char}
    {inner : Nat → List Char → Option (α × List Char)} {make : α → Json} {empty v : Json}
    {outer : ItemReader} (he : Enclosed opening closing inner make empty outer)
    (hempty : empty.isClosed = true) (hmake : ∀ x, (make x).isClosed = true)
    {s r rest : List Char} (hs : skipSpace s = opening :: r) (h : outer s = some (v, rest)) :
    v.isClosed = true := by
  by_cases hr : (skipSpace r).head? = some closing
  · obtain ⟨more, hmore⟩ := List.head?_eq_some_iff.1 hr
    rw [he.read_none hs hmore] at h
    obtain ⟨rfl, -⟩ := Prod.mk.inj (Option.some.inj h)
    exact hempty
  · rw [he.read_inner hs hr] at h
    obtain ⟨x, -, hx⟩ := Option.map_eq_some_iff.1 h
    obtain ⟨rfl, -⟩ := Prod.mk.inj hx
    exact hmake x.1

/-- The first character of a value is no blank, and says whether the last one closes it. -/
theorem head_of_readValue? {depth : Nat} {s rest : List Char} {v : Json}
    (h : readValue? depth s = some (v, rest)) :
    ∃ c more, skipSpace s = c :: more ∧ Text.isBlank c = false ∧ v.isClosed = opensClosed c := by
  have hread := h
  rw [readValue?.eq_def] at h
  dsimp only at h
  split at h
  · next hs =>
    obtain ⟨rfl, -⟩ := Prod.mk.inj (Option.some.inj h)
    exact ⟨_, _, hs, by decide, rfl⟩
  · next hs =>
    obtain ⟨rfl, -⟩ := Prod.mk.inj (Option.some.inj h)
    exact ⟨_, _, hs, by decide, rfl⟩
  · next hs =>
    obtain ⟨rfl, -⟩ := Prod.mk.inj (Option.some.inj h)
    exact ⟨_, _, hs, by decide, rfl⟩
  · next hs =>
    obtain ⟨x, -, hx⟩ := Option.map_eq_some_iff.1 h
    obtain ⟨rfl, -⟩ := Prod.mk.inj hx
    exact ⟨_, _, hs, by decide, rfl⟩
  · next hs =>
    refine ⟨_, _, hs, by decide, ?_⟩
    rcases depth with _ | depth
    · cases h
    · exact (enclosed_items (hasExtent_readValue? depth)).isClosed rfl (fun _ => rfl) hs hread
  · next hs =>
    refine ⟨_, _, hs, by decide, ?_⟩
    rcases depth with _ | depth
    · cases h
    · exact (enclosed_members (hasExtent_readValue? depth)).isClosed rfl (fun _ => rfl) hs hread
  · obtain ⟨⟨n, r⟩, hn, hx⟩ := Option.map_eq_some_iff.1 h
    obtain ⟨rfl, -⟩ := Prod.mk.inj hx
    obtain ⟨c, more, hs, hc⟩ := head_of_read? hn
    rcases hc with rfl | hc
    · exact ⟨_, _, hs, by decide, rfl⟩
    · have hne : ∀ d : Char, d.isDigit = false → (c == d) = false := by
        intro d hd
        rw [beq_eq_false_iff_ne]
        rintro rfl
        rw [hc] at hd
        cases hd
      refine ⟨c, more, hs, Text.isBlank_of_isDigit hc, ?_⟩
      rw [opensClosed, hne '"' rfl, hne '[' rfl, hne '\x7b' rfl]
      rfl

/-- Whether a row goes on behind a value with this text in front and that one behind. -/
def goesOn (s rest : List Char) : Bool := (skipSpace s).head?.any opensClosed || mayFollow rest

/-- A reader of rows goes on behind a value exactly where the value ends. -/
theorem endsBefore_iff {depth : Nat} {s rest : List Char} {v : Json}
    (h : readValue? depth s = some (v, rest)) (rest' : List Char) :
    EndsBefore v rest' ↔ goesOn s rest' = true := by
  obtain ⟨c, more, hs, -, hclosed⟩ := head_of_readValue? h
  rw [goesOn, EndsBefore, hclosed, hs, Bool.or_eq_true]
  rfl

/-- One value of a row. -/
theorem readRow_succ (fuel : Nat) (s : List Char) :
    readRow (fuel + 1) s =
      match readValue? maxDepth s with
      | none => []
      | some (v, rest) =>
        if goesOn s rest then v :: readRow fuel rest else [] := by
  rw [readRow]
  dsimp only
  rw [readValue?_skipSpace]
  rfl

/-- A value that is read and ends is a document with blanks in front, and what is left is shorter. -/
theorem exists_written {s rest : List Char} {v : Json}
    (h : readValue? maxDepth s = some (v, rest)) (hends : EndsBefore v rest) :
    ∃ written, s = written ++ rest ∧ ofChars? written = some v ∧ rest.length < s.length := by
  obtain ⟨written, rfl, hext⟩ := hasExtent_readValue? maxDepth h hends
  have halone := hext [] (.inr rfl)
  rw [List.append_nil] at halone
  refine ⟨written, rfl, ofChars?_eq_some_iff.2 ⟨[], halone, rfl⟩, ?_⟩
  have hne : written ≠ [] := by
    rintro rfl
    have hnil : readValue? maxDepth [] = none := by decide
    rw [hnil] at halone
    cases halone
  have := List.length_pos_iff.2 hne
  rw [List.length_append]
  omega

/-- A document is read where it ends, up to its blanks behind. -/
theorem readValue?_written {written : List Char} {v : Json} (h : ofChars? written = some v)
    {rest : List Char} (hends : EndsBefore v rest) :
    ∃ w, (∀ c ∈ w, isSpace c = true) ∧ EndsBefore v (w ++ rest) ∧
      readValue? maxDepth (written ++ rest) = some (v, w ++ rest) := by
  obtain ⟨w, hread, hw⟩ := ofChars?_eq_some_iff.1 h
  have hspaces := isSpace_of_skipSpace_eq_nil hw
  have hfollow : ∀ r : List Char, mayFollow r = true → mayFollow (w ++ r) = true := by
    intro r hr
    cases w with
    | nil => exact hr
    | cons c w => simp [mayFollow, hspaces c]
  have hends' : ∀ r, EndsBefore v r → EndsBefore v (w ++ r) :=
    fun r hr => hr.imp_right (hfollow r)
  have hends₀ := hends' [] (.inr rfl)
  rw [List.append_nil] at hends₀
  obtain ⟨own, rfl, hext⟩ := hasExtent_readValue? maxDepth hread hends₀
  refine ⟨w, hspaces, hends' rest hends, ?_⟩
  rw [List.append_assoc]
  exact hext _ (hends' rest hends)

/-! ## The row -/

/-- More fuel than characters does not change a row. -/
theorem readRow_eq_rowOfChars (fuel : Nat) :
    ∀ s : List Char, s.length < fuel → readRow fuel s = rowOfChars s := by
  induction fuel using Nat.strongRecOn with
  | ind fuel ih =>
    intro s hs
    obtain ⟨fuel, rfl⟩ : ∃ k, fuel = k + 1 := ⟨fuel - 1, by omega⟩
    rw [rowOfChars, readRow_succ, readRow_succ]
    cases hread : readValue? maxDepth s with
    | none => rfl
    | some x =>
      obtain ⟨v, rest⟩ := x
      dsimp only
      by_cases hends : EndsBefore v rest
      · obtain ⟨-, -, -, hlength⟩ := exists_written hread hends
        rw [if_pos ((endsBefore_iff hread rest).1 hends),
          if_pos ((endsBefore_iff hread rest).1 hends), ih fuel (by omega) rest (by omega),
          ← ih s.length (by omega) rest hlength]
      · rw [if_neg (mt (endsBefore_iff hread rest).2 hends),
          if_neg (mt (endsBefore_iff hread rest).2 hends)]

/-- A row begins with the value that is read first, if that ends. -/
theorem rowOfChars_of_readValue? {s rest : List Char} {v : Json}
    (h : readValue? maxDepth s = some (v, rest)) (hends : EndsBefore v rest) :
    rowOfChars s = v :: rowOfChars rest := by
  obtain ⟨-, -, -, hlength⟩ := exists_written h hends
  rw [rowOfChars, readRow_succ, h]
  dsimp only
  rw [if_pos ((endsBefore_iff h rest).1 hends), readRow_eq_rowOfChars _ rest hlength]

/-- Blanks in front do not count for a row. -/
theorem rowOfChars_skipSpace (s : List Char) : rowOfChars (skipSpace s) = rowOfChars s := by
  rw [rowOfChars, rowOfChars, readRow_succ, readRow_succ, readValue?_skipSpace]
  cases hread : readValue? maxDepth s with
  | none => rfl
  | some x =>
    obtain ⟨v, rest⟩ := x
    have hread' := (readValue?_skipSpace maxDepth s).trans hread
    dsimp only
    by_cases hends : EndsBefore v rest
    · obtain ⟨-, -, -, hlength⟩ := exists_written hread hends
      obtain ⟨-, -, -, hlength'⟩ := exists_written hread' hends
      rw [if_pos ((endsBefore_iff hread' rest).1 hends),
        if_pos ((endsBefore_iff hread rest).1 hends), readRow_eq_rowOfChars _ rest hlength,
        readRow_eq_rowOfChars _ rest hlength']
    · rw [if_neg (mt (endsBefore_iff hread' rest).2 hends),
        if_neg (mt (endsBefore_iff hread rest).2 hends)]

/-- Blanks of JSON in front do not count for a row. -/
theorem rowOfChars_append_of_spaces {w : List Char} (hw : ∀ c ∈ w, isSpace c = true)
    (s : List Char) : rowOfChars (w ++ s) = rowOfChars s := by
  rw [← rowOfChars_skipSpace, skipSpace_append_of_spaces hw, rowOfChars_skipSpace]

/-- A row begins with a document that ends in front of the rest. -/
theorem rowOfChars_append {written rest : List Char} {v : Json} (h : ofChars? written = some v)
    (hends : EndsBefore v rest) : rowOfChars (written ++ rest) = v :: rowOfChars rest := by
  obtain ⟨w, hw, hends', hvalue⟩ := readValue?_written h hends
  rw [rowOfChars_of_readValue? hvalue hends', rowOfChars_append_of_spaces hw]

/-- A row of blanks has no document. -/
theorem rowOfChars_of_blank {s : List Char} (hs : Text.isBlankText s = true) :
    rowOfChars s = [] := by
  cases hread : readValue? maxDepth s with
  | none => rw [rowOfChars, readRow_succ, hread]
  | some x =>
    obtain ⟨c, more, hskip, hc, -⟩ := head_of_readValue? hread
    have hmem : c ∈ skipSpace s := by
      rw [hskip]
      exact List.mem_cons_self
    have hblank := List.all_eq_true.1 hs c ((List.dropWhile_suffix isSpace).mem hmem)
    rw [hc] at hblank
    cases hblank

/-- Other blanks than those of JSON stand in front of no row. -/
theorem rowOfChars_trimStart {s : List Char} (hne : rowOfChars s ≠ []) :
    rowOfChars (Text.trimStart s) = rowOfChars s := by
  cases hread : readValue? maxDepth s with
  | none =>
    rw [rowOfChars, readRow_succ, hread] at hne
    exact absurd rfl hne
  | some x =>
    obtain ⟨c, more, hs, hc, -⟩ := head_of_readValue? hread
    obtain ⟨w, hw, hspaces⟩ := exists_spaces s
    rw [← rowOfChars_skipSpace s, hw, Text.trimStart_append_of_blank (isBlankText_of_spaces hspaces),
      skipSpace_append_of_spaces hspaces, skipSpace_skipSpace, hs, Text.trimStart_cons hc]

/-- **Rows.** Exactly the documents of the row are read. -/
theorem mem_rowOfChars_iff {v : Json} {s : List Char} : v ∈ rowOfChars s ↔ InRow v s := by
  constructor
  · intro h
    induction hn : s.length using Nat.strongRecOn generalizing s with
    | ind n ih =>
      cases hread : readValue? maxDepth s with
      | none =>
        rw [rowOfChars, readRow_succ, hread] at h
        cases h
      | some x =>
        obtain ⟨w, rest⟩ := x
        by_cases hends : EndsBefore w rest
        · obtain ⟨written, hs, hwritten, hlength⟩ := exists_written hread hends
          rw [rowOfChars_of_readValue? hread hends, List.mem_cons] at h
          rw [hs]
          rcases h with rfl | h
          · exact .here hwritten hends
          · exact .later hwritten hends (ih rest.length (hn ▸ hlength) h rfl)
        · rw [rowOfChars, readRow_succ, hread] at h
          dsimp only at h
          rw [if_neg (mt (endsBefore_iff hread rest).2 hends)] at h
          cases h
  · intro h
    induction h with
    | here hread hends =>
      rw [rowOfChars_append hread hends]
      exact List.mem_cons_self
    | @later _ _ u hread hends _ ih =>
      rw [rowOfChars_append hread hends]
      exact List.mem_cons_of_mem u ih

end ModelProbe.Json
