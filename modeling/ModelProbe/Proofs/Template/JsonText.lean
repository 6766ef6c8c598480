import Mathlib
import ModelProbe.Proofs.Json.Extent
import ModelProbe.Proofs.Json.Strings
import ModelProbe.Proofs.Template.Segments
import ModelProbe.Proofs.Text.Replacing
/-!
# Templates of JSON texts

A JSON text may be a template. No placeholder reaches over a quote, so filling it fills each string
by itself and leaves everything else as it is: the filled text is read as the same value with filled
strings, as long as the values may stand between quotes as they are.

* `fill_append_quote`: a template may be cut at a quote.
* `fills_readValue?`: a value is read from the filled text where it was read before.
* `ofText?_fill`: reading commutes with filling.
-/

namespace ModelProbe.Template

variable {vars : Bindings}

/-! ## Cutting a template at a quote -/

/-- A segment that is no text stays the first one with a quote at the end of what follows. -/
theorem Segment.Fits.append_quote {segment : Segment} {rest : List Char} (h : segment.Fits rest)
    (htext : ∀ s, segment ≠ .text s) (more : List Char) : segment.Fits (rest ++ '"' :: more) := by
  cases segment with
  | text s => exact absurd rfl (htext s)
  | dollars => trivial
  | braced name => exact h
  | bare name =>
    obtain ⟨hname, hstop⟩ := longestName_append_iff.1 h
    refine longestName_append_iff.2 ⟨hname, fun c tail htail => ?_⟩
    cases rest with
    | nil =>
      obtain ⟨rfl, -⟩ := List.cons.inj htail
      decide
    | cons d rest =>
      obtain ⟨rfl, -⟩ := List.cons.inj htail
      exact hstop d rest rfl
  | lone =>
    obtain ⟨hdollar, hnone⟩ := h
    refine ⟨fun tail htail => ?_, fun name hname => ⟨fun hbegins => ?_, fun hbegins => ?_⟩⟩
    · cases rest with
      | nil => cases htail
      | cons d rest =>
        obtain ⟨rfl, -⟩ := List.cons.inj htail
        exact hdollar rest rfl
    · have hquote : '"' ∉ name := not_mem_of_isName hname (by decide)
      exact (hnone name hname).1 (Text.prefix_of_prefix_append_cons hquote hbegins)
    · have hquote : '"' ∉ '{' :: (name ++ ['}']) := by
        have hplain : '"' ∉ name := not_mem_of_isName hname (by decide)
        simp [hplain]
      exact (hnone name hname).2 (Text.prefix_of_prefix_append_cons hquote hbegins)

/-- **A template may be cut at a quote.** -/
theorem fill_append_quote (vars : Bindings) (s rest : List Char) :
    fill vars (s ++ '"' :: rest) = fill vars s ++ '"' :: fill vars rest := by
  obtain ⟨segments, h⟩ := exists_splits s
  induction h with
  | nil => rw [List.nil_append, fill_of_ne vars (by decide), fill]; rfl
  | @cons segment segments s fits _ ih =>
    rw [fill_chars_append vars fits, List.append_assoc, List.append_assoc, ← ih]
    by_cases htext : ∃ chars, segment = .text chars
    · obtain ⟨chars, rfl⟩ := htext
      exact fill_append_of_plain vars fits.2.1 _
    · rw [not_exists] at htext
      exact fill_chars_append vars (fits.append_quote htext rest)

/-! ## What a filled template consists of -/

/-- Text without `$` is filled to itself. -/
theorem fill_of_plain (vars : Bindings) {s : List Char} (hs : '$' ∉ s) : fill vars s = s := by
  have hfill := fill_append_of_plain vars hs []
  rwa [List.append_nil, fill, List.append_nil] at hfill

/-- The characters of a filled segment are its own and those of values. -/
theorem Segment.mem_of_mem_filled {segment : Segment} {c : Char} (h : c ∈ segment.filled vars) :
    c ∈ segment.chars ∨ ∃ name value, vars.get? name = some value ∧ c ∈ value.toList := by
  cases hname : segment.name? with
  | some name =>
    rw [filled_of_name? hname] at h
    cases hvalue : vars.get? name with
    | none => rw [hvalue] at h; exact .inl h
    | some value => rw [hvalue] at h; exact .inr ⟨name, value, hvalue, h⟩
  | none =>
    cases segment with
    | text s => exact .inl h
    | dollars => exact .inl (List.mem_cons_of_mem _ h)
    | lone => exact .inl h
    | braced _ | bare _ => cases hname

/-- The characters of a filled template are its own and those of values. -/
theorem mem_of_mem_fill {t : List Char} {c : Char} (h : c ∈ fill vars t) :
    c ∈ t ∨ ∃ name value, vars.get? name = some value ∧ c ∈ value.toList := by
  obtain ⟨segments, hsplits⟩ := exists_splits t
  induction hsplits with
  | nil => rw [fill] at h; cases h
  | @cons segment segments rest fits _ ih =>
    rw [fill_chars_append vars fits, List.mem_append] at h
    rw [List.mem_append]
    rcases h with h | h
    · exact (Segment.mem_of_mem_filled h).imp .inl id
    · exact (ih h).imp .inr id

/-- A text that may stand between quotes still may when it is filled with such values. -/
theorem verbatim_fill (hvalues : vars.All fun value => Json.Verbatim value.toList) {s : List Char}
    (hs : Json.Verbatim s) : Json.Verbatim (fill vars s) := by
  intro c hc
  rcases mem_of_mem_fill hc with hc | ⟨name, value, hvalue, hc⟩
  · exact hs c hc
  · exact SortedMap.all_iff.1 hvalues name value hvalue c hc

/-! ## Blanks and signs -/

open Json

/-- What stands behind blanks still does when the text is filled. -/
theorem skipSpace_fill_append (vars : Bindings) {s rest : List Char} (form : List Char)
    (h : skipSpace s = form ++ rest) (hne : form ≠ []) (hplain : '$' ∉ form) :
    skipSpace (fill vars s) = form ++ fill vars rest := by
  obtain ⟨w, hs, hw⟩ := exists_spaces s
  have hspaces : '$' ∉ w := fun hmem => absurd (hw '$' hmem) (by decide)
  rw [hs, h, fill_append_of_plain vars hspaces, skipSpace_append_of_spaces hw,
    fill_append_of_plain vars hplain]
  obtain ⟨c, cs, rfl⟩ := List.exists_cons_of_ne_nil hne
  exact skipSpace_cons (isSpace_of_skipSpace_eq_cons h) _

/-- A sign behind blanks still stands there when the text is filled. -/
theorem skipSpace_fill_cons (vars : Bindings) {s rest : List Char} {c : Char}
    (h : skipSpace s = c :: rest) (hc : c ≠ '$') :
    skipSpace (fill vars s) = c :: fill vars rest :=
  skipSpace_fill_append vars [c] h (List.cons_ne_nil c []) fun hmem =>
    hc (List.mem_singleton.1 hmem).symm

/-- What may follow a value still may when the text is filled. -/
theorem mayFollow_fill (vars : Bindings) {rest : List Char} (h : mayFollow rest = true) :
    mayFollow (fill vars rest) = true := by
  cases rest with
  | nil => rw [fill]; rfl
  | cons c rest =>
    have hc : c ≠ '$' := by
      rintro rfl
      exact absurd h (by simp [mayFollow, isSpace])
    rw [fill_of_ne vars hc]
    exact h

/-- A character that a text does not have is not in what stands behind its blanks. -/
theorem not_mem_of_skipSpace {s rest : List Char} {c d : Char} (h : skipSpace s = c :: rest)
    (hd : d ∉ s) : d ∉ rest := by
  intro hmem
  have hskip : d ∈ skipSpace s := by
    rw [h]
    exact List.mem_cons_of_mem c hmem
  exact hd ((List.dropWhile_suffix isSpace).subset hskip)

/-- A number has no `$`. -/
theorem not_mem_of_read? {t rest : List Char} {n : JsonNumber}
    (h : JsonNumber.read? (t ++ rest) = some (n, rest)) : '$' ∉ t := by
  intro hmem
  obtain ⟨a, b, rfl⟩ := List.append_of_mem hmem
  have hstops : JsonNumber.Stops ('$' :: (b ++ rest)) := by
    rw [JsonNumber.stops_cons_iff]
    decide
  rw [List.append_assoc, List.cons_append, JsonNumber.read?_append a hstops,
    Option.map_eq_some_iff] at h
  obtain ⟨x, -, heq⟩ := h
  have hlength := congrArg List.length (Prod.mk.inj heq).2
  simp only [List.length_append, List.length_cons] at hlength
  omega

/-- No value begins with `$`. -/
theorem head?_ne_of_readValue? {depth : Nat} {s rest : List Char} {v : Json}
    (h : readValue? depth s = some (v, rest)) : (skipSpace s).head? ≠ some '$' := by
  intro hhead
  obtain ⟨more, hs⟩ := List.head?_eq_some_iff.1 hhead
  rw [readValue?.eq_def] at h
  dsimp only at h
  rw [hs] at h
  cases h

/-! ## Reading filled texts -/

/-- The name has no `$`. -/
def plainName (name : String) : Bool := !name.toList.contains '$'

/-- A plain name is filled to itself. -/
theorem fill_of_plainName (vars : Bindings) {name : String} (h : plainName name = true) :
    vars.fill name = name := by
  have hplain : '$' ∉ name.toList := by simpa [plainName] using h
  rw [Bindings.fill, fill_of_plain vars hplain, String.ofList_toList]

/-- A text is filled by its characters. -/
theorem fill_ofList (vars : Bindings) (s : List Char) :
    vars.fill (String.ofList s) = String.ofList (fill vars s) := by
  rw [Bindings.fill, String.toList_ofList]

/-- The second value is the first one with its strings filled. -/
abbrev Filled (vars : Bindings) : Json → Json → Prop := Mapped vars.fill plainName

/-- A reader that reads a value from a text without backslashes reads it, filled, from the filled
text, and both times up to the same place. -/
def Fills (vars : Bindings) (item : ItemReader) : Prop :=
  ∀ ⦃s v rest⦄, '\\' ∉ s → item s = some (v, rest) → mayFollow rest = true →
    ∃ w, item (fill vars s) = some (w, fill vars rest) ∧ Filled vars v w

/-- The same of a reader of several values one after another, with enough fuel. -/
structure FillsInside {α : Type} (vars : Bindings) (inner : Nat → List Char → Option (α × List Char))
    (related : α → α → Prop) : Prop where
  head : ∀ {fuel : Nat} {s rest : List Char} {x : α}, inner fuel s = some (x, rest) →
    (skipSpace s).head? ≠ some '$'
  fills : ∀ {fuel : Nat} {s rest : List Char} {x : α}, '\\' ∉ s → inner fuel s = some (x, rest) →
    ∀ fuel', (fill vars s).length < fuel' →
      ∃ y, inner fuel' (fill vars s) = some (y, fill vars rest) ∧ related x y

/-- A value and the sign after it, in the filled text. -/
theorem Fills.followed {item : ItemReader} (hitem : Fills vars item) (hextent : HasExtent item)
    {s r more : List Char} {v : Json} {c : Char} (hs : '\\' ∉ s) (hv : item s = some (v, r))
    (hr : skipSpace r = c :: more) (hc : mayFollow [c] = true) :
    '\\' ∉ more ∧ ∃ w, item (fill vars s) = some (w, fill vars r) ∧ Filled vars v w ∧
      skipSpace (fill vars r) = c :: fill vars more ∧
      (fill vars more).length < (fill vars s).length := by
  have hne : c ≠ '$' := by
    rintro rfl
    cases hc
  have hfollow := mayFollow_of_skipSpace hr hc
  obtain ⟨w, hw, hfilled⟩ := hitem hs hv hfollow
  have hskip := skipSpace_fill_cons vars hr hne
  obtain ⟨t, rfl, -⟩ := hextent hv (.inr hfollow)
  obtain ⟨t', ht', -⟩ := hextent hw (.inr (mayFollow_fill vars hfollow))
  refine ⟨?_, w, hw, hfilled, hskip, ?_⟩
  · exact not_mem_of_skipSpace hr fun hmem => hs (List.mem_append_right t hmem)
  · -- The filled rest is the end of the filled text, and the sign is one character more.
    have hshort := (List.dropWhile_suffix (l := fill vars r) isSpace).length_le
    rw [← skipSpace, hskip, List.length_cons] at hshort
    rw [ht', List.length_append]
    omega

/-- The items of an array, in the filled text. -/
theorem fillsInside_readItems? {depth : Nat} (hitem : Fills vars (readValue? depth)) :
    FillsInside vars (readItems? (readValue? depth)) (List.Forall₂ (Filled vars)) where
  head := by
    intro fuel s rest vs h
    cases fuel with
    | zero => cases h
    | succ fuel =>
      rw [readItems?] at h
      split at h
      · cases h
      · next hv => exact head?_ne_of_readValue? hv
  fills := by
    intro fuel
    induction fuel with
    | zero => intro s rest vs _ h; cases h
    | succ fuel ih =>
      intro s rest vs hs h fuel' hfuel
      obtain ⟨k, rfl⟩ : ∃ k, fuel' = k + 1 := ⟨fuel' - 1, by omega⟩
      rw [readItems?] at h
      split at h
      · cases h
      · next v r hv =>
        split at h
        · next more hmore =>
          rw [Option.map_eq_some_iff] at h
          obtain ⟨⟨vs', last⟩, hvs, heq⟩ := h
          obtain ⟨rfl, rfl⟩ := Prod.mk.inj heq
          obtain ⟨hs', w, hw, hfilled, hskip, hlength⟩ :=
            hitem.followed (hasExtent_readValue? depth) hs hv hmore rfl
          obtain ⟨ws, hws, hall⟩ := ih hs' hvs k (by omega)
          refine ⟨w :: ws, ?_, .cons hfilled hall⟩
          rw [readItems?, hw]
          simp only [hskip, hws]
          rfl
        · next more hmore =>
          obtain ⟨rfl, rfl⟩ := Prod.mk.inj (Option.some.inj h)
          obtain ⟨-, w, hw, hfilled, hskip, -⟩ :=
            hitem.followed (hasExtent_readValue? depth) hs hv hmore rfl
          refine ⟨[w], ?_, .cons hfilled .nil⟩
          rw [readItems?, hw]
          simp only [hskip]
        · cases h

/-- A member's name, in the filled text. -/
theorem readName?_fill (hvalues : vars.All fun value => Verbatim value.toList) {s rest : List Char}
    {name : String} (hs : '\\' ∉ s) (h : readName? s = some (name, rest)) :
    readName? (fill vars s) = some (vars.fill name, fill vars rest) := by
  rw [readName?] at h
  split at h
  · next r hquote =>
    split at h
    · cases h
    · next x last hx =>
      split at h
      · next more hcolon =>
        obtain ⟨rfl, rfl⟩ := Prod.mk.inj (Option.some.inj h)
        have hr : '\\' ∉ r := not_mem_of_skipSpace hquote hs
        obtain ⟨rfl, hverbatim⟩ := verbatim_of_readString? hr hx
        have hopen := skipSpace_fill_cons vars hquote (by decide)
        have hsign := skipSpace_fill_cons vars hcolon (by decide)
        have hstring := readString?_verbatim (verbatim_fill hvalues hverbatim) (fill vars last)
        rw [readName?, hopen, fill_append_quote]
        simp only [hstring, hsign, fill_ofList]
      · cases h
  · cases h

/-- A name is read from a quote on. -/
theorem head?_ne_of_readName? {s rest : List Char} {name : String}
    (h : readName? s = some (name, rest)) : (skipSpace s).head? ≠ some '$' := by
  rw [readName?] at h
  split at h
  · next r hquote => rw [hquote]; simp
  · cases h

/-- The members of an object, in the filled text. -/
theorem fillsInside_readMembers? (hvalues : vars.All fun value => Verbatim value.toList) {depth : Nat}
    (hitem : Fills vars (readValue? depth)) :
    FillsInside vars (readMembers? (readValue? depth))
      (List.Forall₂ (MappedMember vars.fill vars.fill plainName)) where
  head := by
    intro fuel s rest ms h
    cases fuel with
    | zero => cases h
    | succ fuel =>
      rw [readMembers?] at h
      split at h
      · cases h
      · next hname => exact head?_ne_of_readName? hname
  fills := by
    intro fuel
    induction fuel with
    | zero => intro s rest ms _ h; cases h
    | succ fuel ih =>
      intro s rest ms hs h fuel' hfuel
      obtain ⟨k, rfl⟩ : ∃ k, fuel' = k + 1 := ⟨fuel' - 1, by omega⟩
      rw [readMembers?] at h
      split at h
      · cases h
      · next name r hname =>
        have hnamed := readName?_fill hvalues hs hname
        obtain ⟨t, rfl, -⟩ := extent_readName? hname
        obtain ⟨t', ht', -⟩ := extent_readName? hnamed
        have hr : '\\' ∉ r := fun hmem => hs (List.mem_append_right t hmem)
        rw [ht', List.length_append] at hfuel
        split at h
        · cases h
        · next v last hv =>
          split at h
          · next more hmore =>
            rw [Option.map_eq_some_iff] at h
            obtain ⟨⟨ms', last'⟩, hms, heq⟩ := h
            obtain ⟨rfl, rfl⟩ := Prod.mk.inj heq
            obtain ⟨hr', w, hw, hfilled, hskip, hlength⟩ :=
              hitem.followed (hasExtent_readValue? depth) hr hv hmore rfl
            obtain ⟨ns, hns, hall⟩ := ih hr' hms k (by omega)
            refine ⟨(vars.fill name, w) :: ns, ?_, .cons ⟨rfl, hfilled⟩ hall⟩
            rw [readMembers?, hnamed]
            simp only [hw, hskip, hns]
            rfl
          · next more hmore =>
            obtain ⟨rfl, rfl⟩ := Prod.mk.inj (Option.some.inj h)
            obtain ⟨-, w, hw, hfilled, hskip, -⟩ :=
              hitem.followed (hasExtent_readValue? depth) hr hv hmore rfl
            refine ⟨[(vars.fill name, w)], ?_, .cons ⟨rfl, hfilled⟩ .nil⟩
            rw [readMembers?, hnamed]
            simp only [hw, hskip]
          · cases h

/-- Values between an opening and a closing sign, in the filled text. -/
theorem FillsInside.enclosed {α : Type} {opening closing : Char}
    {inner : Nat → List Char → Option (α × List Char)} {make : α → Json} {empty : Json}
    {outer : ItemReader} {related : α → α → Prop} (hinner : FillsInside vars inner related)
    (he : Enclosed opening closing inner make empty outer) (hopening : opening ≠ '$')
    (hclosing : closing ≠ '$') (hempty : Filled vars empty empty)
    (hmake : ∀ x y, related x y → Filled vars (make x) (make y)) {s r rest : List Char} {v : Json}
    (hs : '\\' ∉ s) (hopen : skipSpace s = opening :: r) (h : outer s = some (v, rest)) :
    ∃ w, outer (fill vars s) = some (w, fill vars rest) ∧ Filled vars v w := by
  have hfilled := skipSpace_fill_cons vars hopen hopening
  by_cases hnone : (skipSpace r).head? = some closing
  · obtain ⟨more, hclose⟩ := List.head?_eq_some_iff.1 hnone
    rw [he.read_none hopen hclose] at h
    obtain ⟨rfl, rfl⟩ := Prod.mk.inj (Option.some.inj h)
    have hend := skipSpace_fill_cons vars hclose hclosing
    exact ⟨empty, he.read_none hfilled hend, hempty⟩
  · rw [he.read_inner hopen hnone, Option.map_eq_some_iff] at h
    obtain ⟨⟨x, last⟩, hx, heq⟩ := h
    obtain ⟨rfl, rfl⟩ := Prod.mk.inj heq
    obtain ⟨y, hy, hrelated⟩ := hinner.fills (not_mem_of_skipSpace hopen hs) hx
      ((fill vars r).length + 1) (Nat.lt_succ_self _)
    have hfirst : (skipSpace (fill vars r)).head? ≠ some closing := by
      cases hskip : skipSpace r with
      | nil =>
        have hspaces : '$' ∉ r := fun hmem =>
          absurd (isSpace_of_skipSpace_eq_nil hskip '$' hmem) (by decide)
        rw [fill_of_plain vars hspaces, hskip]
        simp
      | cons c more =>
        have hc : c ≠ '$' := by
          rintro rfl
          exact hinner.head hx (by rw [hskip]; rfl)
        rw [skipSpace_fill_cons vars hskip hc]
        rw [hskip] at hnone
        exact hnone
    exact ⟨make y, by rw [he.read_inner hfilled hfirst, hy]; rfl, hmake x y hrelated⟩

/-- A number, in the filled text. -/
theorem readValue?_fill_number {depth : Nat} {s more rest : List Char} {c : Char} {n : JsonNumber}
    (hs : skipSpace s = c :: more) (hc : c = '-' ∨ c.isDigit = true)
    (h : JsonNumber.read? (c :: more) = some (n, rest)) (hfollow : mayFollow rest = true) :
    readValue? depth (fill vars s) = some (number n, fill vars rest) := by
  have hstops := stops_of_mayFollow hfollow
  obtain ⟨t, ht, hread⟩ := JsonNumber.extent_read? h hstops
  have hplain : '$' ∉ t := not_mem_of_read? (ht ▸ h)
  cases t with
  | nil =>
    rw [List.nil_append] at ht
    rw [← ht, JsonNumber.stops_cons_iff] at hstops
    rcases hc with rfl | hc
    · cases hstops
    · simp [JsonNumber.isNumberChar, hc] at hstops
  | cons d t =>
    rw [ht] at hs
    have hfilled := skipSpace_fill_append vars _ hs (List.cons_ne_nil d t) hplain
    obtain ⟨rfl, -⟩ := List.cons.inj ht
    have hnumber := hread (fill vars rest) (stops_of_mayFollow (mayFollow_fill vars hfollow))
    rw [List.cons_append] at hfilled hnumber
    rw [readValue?_number hfilled hc, hnumber]
    rfl

/-- A value, in the filled text, when the values inside it are read so. -/
theorem fills_of_inner (hvalues : vars.All fun value => Verbatim value.toList) (depth : Nat)
    (ih : ∀ d, depth = d + 1 → Fills vars (readValue? d)) : Fills vars (readValue? depth) := by
  intro s v rest hs h hfollow
  have hread := h
  rw [readValue?.eq_def] at h
  dsimp only at h
  split at h
  · next r hword =>
    obtain ⟨rfl, rfl⟩ := Prod.mk.inj (Option.some.inj h)
    have hfilled := skipSpace_fill_append vars ['n', 'u', 'l', 'l'] hword (by simp) (by decide)
    exact ⟨null, by rw [readValue?.eq_def]; simp [hfilled], fun _ => rfl⟩
  · next r hword =>
    obtain ⟨rfl, rfl⟩ := Prod.mk.inj (Option.some.inj h)
    have hfilled := skipSpace_fill_append vars ['t', 'r', 'u', 'e'] hword (by simp) (by decide)
    exact ⟨bool true, by rw [readValue?.eq_def]; simp [hfilled], fun _ => rfl⟩
  · next r hword =>
    obtain ⟨rfl, rfl⟩ := Prod.mk.inj (Option.some.inj h)
    have hfilled := skipSpace_fill_append vars ['f', 'a', 'l', 's', 'e'] hword (by simp)
      (by decide)
    exact ⟨bool false, by rw [readValue?.eq_def]; simp [hfilled], fun _ => rfl⟩
  · next r hquote =>
    rw [Option.map_eq_some_iff] at h
    obtain ⟨⟨x, last⟩, hx, heq⟩ := h
    obtain ⟨rfl, rfl⟩ := Prod.mk.inj heq
    have hr : '\\' ∉ r := not_mem_of_skipSpace hquote hs
    obtain ⟨rfl, hverbatim⟩ := verbatim_of_readString? hr hx
    have hfilled := skipSpace_fill_cons vars hquote (by decide)
    rw [fill_append_quote] at hfilled
    have hstring := readString?_verbatim (verbatim_fill hvalues hverbatim) (fill vars last)
    refine ⟨string (String.ofList (fill vars x)), ?_, fun _ => ?_⟩
    · rw [readValue?.eq_def]
      simp only [hfilled, hstring]
      rfl
    · rw [mapStrings, fill_ofList]
  · next r hopen =>
    cases depth with
    | zero => cases h
    | succ d =>
      exact (fillsInside_readItems? (ih d rfl)).enclosed (enclosed_items (hasExtent_readValue? d))
        (by decide) (by decide) (fun _ => rfl) (fun _ _ => Mapped.array) hs hopen hread
  · next r hopen =>
    cases depth with
    | zero => cases h
    | succ d =>
      exact (fillsInside_readMembers? hvalues (ih d rfl)).enclosed
        (enclosed_members (hasExtent_readValue? d)) (by decide) (by decide) (fun _ => rfl)
        (fun _ _ hmembers => Mapped.ofMembers hmembers fun _ => fill_of_plainName vars) hs hopen hread
  · rw [Option.map_eq_some_iff] at h
    obtain ⟨⟨n, last⟩, hn, heq⟩ := h
    obtain ⟨rfl, rfl⟩ := Prod.mk.inj heq
    obtain ⟨c, more, hskip, hc⟩ := head_of_read? hn
    rw [hskip] at hn
    exact ⟨number n, readValue?_fill_number hskip hc hn hfollow, fun _ => rfl⟩

/-- **A value is read from the filled text where it was read before.** -/
theorem fills_readValue? (hvalues : vars.All fun value => Verbatim value.toList) (depth : Nat) :
    Fills vars (readValue? depth) := by
  induction depth with
  | zero => exact fills_of_inner hvalues 0 fun d hd => absurd hd (by omega)
  | succ depth ih =>
    refine fills_of_inner hvalues (depth + 1) fun d hd => ?_
    obtain rfl : depth = d := by omega
    exact ih

/-- **Reading commutes with filling.** A template that is a JSON text without backslashes is filled,
with values that may stand between quotes as they are, to a JSON text: that of its value, in which
every string is filled by itself and everything else is unchanged. No name of a member that counts
may have a `$`. -/
theorem ofText?_fill {template : String} {v : Json} (hread : ofText? template = some v)
    (hslash : '\\' ∉ template.toList) (hnames : v.namesAll plainName = true)
    (hvalues : vars.All fun value => Verbatim value.toList) :
    ofText? (vars.fill template) = some (v.mapStrings vars.fill) := by
  obtain ⟨rest, hv, hrest⟩ := ofChars?_eq_some_iff.1 hread
  have hspaces := isSpace_of_skipSpace_eq_nil hrest
  have hplain : '$' ∉ rest := fun hmem => absurd (hspaces '$' hmem) (by decide)
  have hfollow : mayFollow rest = true := by
    cases rest with
    | nil => rfl
    | cons c rest => simp [mayFollow, hspaces c List.mem_cons_self]
  obtain ⟨w, hw, hfilled⟩ := fills_readValue? hvalues maxDepth hslash hv hfollow
  rw [fill_of_plain vars hplain] at hw
  rw [← hfilled hnames, ofText?, Bindings.fill, String.toList_ofList]
  exact ofChars?_eq_some_iff.2 ⟨rest, hw, hrest⟩

/-- A body in which a `$` is followed by a brace in one string and by a name in another. -/
def bodyTemplate : String := "\x7b\"n\":[\"$\x7b\",\"$a\",null]\x7d"

/-- The value of the body before it is filled. -/
def bodyValue : Json := .object [("n", .array [.string "$\x7b", .string "$a", .null])]

/-- A value that looks like the end of a placeholder and the beginning of another one. -/
def bodyBindings : Bindings := SortedMap.empty.insert "a" "b\x7d$\x7b"

theorem ofText?_fill_bodyTemplate :
    ofText? bodyTemplate = some bodyValue ∧ '\\' ∉ bodyTemplate.toList ∧
      bodyValue.namesAll plainName = true ∧
      bodyBindings.All (fun value => Verbatim value.toList) ∧
      ofText? (bodyBindings.fill bodyTemplate) = some (bodyValue.mapStrings bodyBindings.fill) := by
  have hread : ofText? bodyTemplate = some bodyValue := by cbv
  have hslash : '\\' ∉ bodyTemplate.toList := by decide +kernel
  have hnames : bodyValue.namesAll plainName = true := by decide +kernel
  have hvalues : bodyBindings.All fun value => Verbatim value.toList := by decide +kernel
  exact ⟨hread, hslash, hnames, hvalues, ofText?_fill hread hslash hnames hvalues⟩

end ModelProbe.Template
