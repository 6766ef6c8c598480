import ModelProbe.Proofs.Answer.Decode
/-!
# Headers and the letter case of their names

A server may write the name of a header in any letter case, and a lookup does not mind it. But each
spelling has a place of its own in the table, and the lookup takes the first of them: of the lines
with one name, it finds the last one that has the least spelling. So what it finds is the value of
the last line of the name when no line before has a lesser spelling, as in outputs that spell every
name in one way.

* `header?_ofList`: what a lookup finds in the table of some entries.
* `header?_of_nameApart`: the value of a header among printed heads.
* `header?_recased`: two outputs that differ only in the letter case of header names.
-/

namespace ModelProbe

/-! ## Heads in another letter case -/

/-- A header line without the letter case of its name. -/
def HeaderLine.folded (l : HeaderLine) : List Char × String :=
  (l.name.toList.map Char.toLower, l.value)

/-- A head without the letter case of its header names. -/
def Head.folded (h : Head) : String × String × LineEnd × List (List Char × String) :=
  (h.version, h.status, h.lineEnd, h.headers.map HeaderLine.folded)

/-- Two rows of heads differ only in the letter case of header names. -/
def Head.Recased (heads others : List Head) : Prop :=
  heads.map Head.folded = others.map Head.folded

namespace Answer

open SortedMap (leastBy)

/-- The header lines with a name, in any letter case, of all heads in order. -/
def linesNamed (name : String) (heads : List Head) : List HeaderLine :=
  (heads.flatMap Head.headers).filter fun l => sameName l.name name

/-- The value of the last header line with a name. -/
def lastValue? (name : String) (heads : List Head) : Option String :=
  (linesNamed name heads).getLast?.map HeaderLine.value

/-- The value of the last header line with a name that has the least spelling of it. -/
def leastValue? (name : String) (heads : List Head) : Option String :=
  (leastBy HeaderLine.name (linesNamed name heads)).getLast?.map HeaderLine.value

/-- No header line has a lesser spelling of the name than the last one. -/
def LastIsLeast (name : String) (heads : List Head) : Prop :=
  ∀ last ∈ (linesNamed name heads).getLast?, ∀ l ∈ linesNamed name heads,
    (compare last.name l.name).isLE = true

/-- With the least spelling in the last line, both values are the same. -/
theorem leastValue?_eq_lastValue? {name : String} {heads : List Head}
    (h : LastIsLeast name heads) : leastValue? name heads = lastValue? name heads := by
  unfold LastIsLeast at h
  unfold leastValue? lastValue?
  rcases List.eq_nil_or_concat (linesNamed name heads) with hnil | ⟨before, last, hlines⟩
  · rw [hnil]
    rfl
  · rw [List.concat_eq_append] at hlines
    rw [hlines, List.getLast?_concat] at h ⊢
    have hbefore : ∀ l ∈ before, (compare last.name l.name).isLE = true := fun l hl =>
      h last rfl l (List.mem_append_left _ hl)
    rw [SortedMap.getLast?_leastBy hbefore fun l hl => absurd hl List.not_mem_nil]

section Recased

variable {heads others : List Head}

/-- Recased heads have the same versions and statuses. -/
theorem map_status_of_recased (h : Head.Recased heads others) :
    (heads.map fun h => (h.version, Json.string h.status)) =
      others.map fun h => (h.version, Json.string h.status) := by
  have hmap := congrArg (List.map fun f => (f.1, Json.string f.2.1)) h
  rwa [List.map_map, List.map_map] at hmap

/-- Recased heads have the same header lines but for the letter case of names. -/
theorem map_folded_of_recased (h : Head.Recased heads others) :
    (heads.flatMap Head.headers).map HeaderLine.folded =
      (others.flatMap Head.headers).map HeaderLine.folded := by
  have hlines : ∀ heads : List Head, (heads.flatMap Head.headers).map HeaderLine.folded =
      (heads.map Head.folded).flatMap fun f => f.2.2.2 := by
    intro heads
    rw [List.map_flatMap, List.flatMap_map]
    rfl
  rw [hlines, hlines, h]

/-- Recased heads have the same lines with a name but for the letter case of it. -/
theorem map_folded_linesNamed (h : Head.Recased heads others) (name : String) :
    (linesNamed name heads).map HeaderLine.folded =
      (linesNamed name others).map HeaderLine.folded := by
  have hlines : ∀ heads : List Head, (linesNamed name heads).map HeaderLine.folded =
      ((heads.flatMap Head.headers).map HeaderLine.folded).filter fun f =>
        f.1 == name.toList.map Char.toLower := by
    intro heads
    rw [List.filter_map]
    rfl
  rw [hlines, hlines, map_folded_of_recased h]

/-- The last lines with a name of recased heads have the same value. -/
theorem lastValue?_of_recased (h : Head.Recased heads others) (name : String) :
    lastValue? name heads = lastValue? name others := by
  have hlast : ∀ heads : List Head, lastValue? name heads =
      ((linesNamed name heads).map HeaderLine.folded).getLast?.map Prod.snd := by
    intro heads
    rw [lastValue?, List.getLast?_map, Option.map_map]
    rfl
  rw [hlast, hlast, map_folded_linesNamed h]

/-- Recased heads have lines with the same names. -/
theorem linesNamed_eq_nil_of_recased (h : Head.Recased heads others) {name : String}
    (hlines : linesNamed name heads = []) : linesNamed name others = [] := by
  have hmap := map_folded_linesNamed h name
  rw [hlines, List.map_nil, eq_comm] at hmap
  exact List.map_eq_nil_iff.1 hmap

end Recased

/-! ## Looking up in a table -/

/-- **A lookup in the table of some entries** finds, of those with the name, the last one that has
the least spelling of it. -/
theorem header?_ofList (raw : String) (entries : List (String × Json)) (name : String) :
    (Answer.mk raw (SortedMap.ofList entries)).header? name =
      (leastBy Prod.fst (entries.filter fun e => sameName e.1 name)).getLast?.bind fun e =>
        e.2.asString? := by
  have hfind := SortedMap.find?_toList_ofList (fun key => sameName key name) entries
  exact congrArg (Option.bind · fun e => e.2.asString?) hfind

/-- What the payload of an output leaves in its table. -/
def payloadEntries (raw payload : String) : List (String × Json) :=
  match Json.ofChars? (Text.trim payload.toList) with
  | some (.object members) => members
  | _ => [(outputKey, .string raw)]

theorem payloadEntries_of_object {payload : String} {members : List (String × Json)}
    (h : Json.ofChars? (Text.trim payload.toList) = some (.object members)) (raw : String) :
    payloadEntries raw payload = members := by
  rw [payloadEntries, h]

theorem payloadEntries_of_other {payload : String}
    (h : ∀ members, Json.ofChars? (Text.trim payload.toList) ≠ some (.object members))
    (raw : String) : payloadEntries raw payload = [(outputKey, .string raw)] := by
  unfold payloadEntries
  split
  · next members hread => exact absurd hread (h members)
  · rfl

/-- The table of an output has what its heads and its payload leave. -/
theorem ofText_printed (heads : List Head) {payload : String}
    (hmark : ¬ headMark <+: Text.trim payload.toList) :
    ofText (printed heads payload) =
      ⟨printed heads payload, SortedMap.ofList
        (heads.flatMap Head.entries ++ payloadEntries (printed heads payload) payload)⟩ := by
  by_cases hobject : ∃ members, Json.ofChars? (Text.trim payload.toList) = some (.object members)
  · obtain ⟨members, hread⟩ := hobject
    rw [payloadEntries_of_object hread, ofText_printed_object heads hread hmark]
  · have hother := not_exists.1 hobject
    rw [payloadEntries_of_other hother, ofText_printed_other heads hother hmark]

section Printed

variable {heads others : List Head} {payload name : String}

/-- The whole output stands under no spelling of the name. -/
def WholeApart (payload name : String) : Prop :=
  sameName outputKey name = true →
    ∃ members, Json.ofChars? (Text.trim payload.toList) = some (.object members)

/-- The table has no other entries with the name than those of header lines. -/
structure NameApart (heads : List Head) (payload name : String) : Prop where
  versions : ∀ h ∈ heads, sameName h.version name = false
  members : ∀ members, Json.ofChars? (Text.trim payload.toList) = some (.object members) →
    ∀ e ∈ members, sameName e.1 name = false

/-- Where the whole output is apart, a payload that leaves the name leaves it in its members. -/
theorem filter_payloadEntries (hwhole : WholeApart payload name) (raw raw' : String) :
    (payloadEntries raw payload).filter (fun e => sameName e.1 name) =
      (payloadEntries raw' payload).filter fun e => sameName e.1 name := by
  by_cases hobject : ∃ members, Json.ofChars? (Text.trim payload.toList) = some (.object members)
  · obtain ⟨members, hread⟩ := hobject
    rw [payloadEntries_of_object hread, payloadEntries_of_object hread]
  · have hname : ¬ sameName outputKey name = true := fun h => hobject (hwhole h)
    rw [payloadEntries_of_other (not_exists.1 hobject),
      payloadEntries_of_other (not_exists.1 hobject), List.filter_cons, List.filter_cons,
      if_neg hname, if_neg hname]

theorem filter_payloadEntries_of_nameApart (h : NameApart heads payload name)
    (hwhole : WholeApart payload name) (raw : String) :
    (payloadEntries raw payload).filter (fun e => sameName e.1 name) = [] := by
  rw [List.filter_eq_nil_iff]
  by_cases hobject : ∃ members, Json.ofChars? (Text.trim payload.toList) = some (.object members)
  · obtain ⟨members, hread⟩ := hobject
    rw [payloadEntries_of_object hread]
    intro e he
    rw [h.members members hread e he]
    exact Bool.false_ne_true
  · rw [payloadEntries_of_other (not_exists.1 hobject)]
    intro e he hname
    obtain rfl := List.mem_singleton.1 he
    exact hobject (hwhole hname)

/-- The entry of a header line. -/
def lineEntry (l : HeaderLine) : String × Json := (l.name, .string l.value)

/-- With other versions, the entries with a name are those of its header lines. -/
theorem filter_entries_of_versions (h : ∀ h ∈ heads, sameName h.version name = false) :
    (heads.flatMap Head.entries).filter (fun e => sameName e.1 name) =
      (linesNamed name heads).map lineEntry := by
  induction heads with
  | nil => rfl
  | cons head heads ih =>
    obtain ⟨hhead, hheads⟩ := List.forall_mem_cons.1 h
    have hversion : ¬ sameName head.version name = true := by simp [hhead]
    rw [List.flatMap_cons, List.filter_append, ih hheads, linesNamed, linesNamed,
      List.flatMap_cons, List.filter_append, List.map_append, Head.entries, List.filter_cons,
      if_neg hversion, List.filter_map]
    rfl

/-- Without header lines of a name, the entries with the name are those of status lines. -/
theorem filter_entries_of_lines (h : linesNamed name heads = []) :
    (heads.flatMap Head.entries).filter (fun e => sameName e.1 name) =
      (heads.map fun h => (h.version, Json.string h.status)).filter fun e =>
        sameName e.1 name := by
  induction heads with
  | nil => rfl
  | cons head heads ih =>
    rw [linesNamed, List.flatMap_cons, List.filter_append, List.append_eq_nil_iff] at h
    have hheaders : ((head.headers.map fun l => (l.name, Json.string l.value)).filter fun e =>
        sameName e.1 name) = [] := by
      rw [List.filter_map, List.map_eq_nil_iff]
      exact h.1
    rw [List.flatMap_cons, List.filter_append, ih h.2, Head.entries, List.map_cons,
      ← List.singleton_append, List.filter_append, hheaders, List.append_nil,
      ← List.filter_append, List.singleton_append]

/-- **The value of a header.** It is that of the last line with the least spelling of the name. -/
theorem header?_of_nameApart (h : NameApart heads payload name) (hwhole : WholeApart payload name)
    (hmark : ¬ headMark <+: Text.trim payload.toList) :
    (ofText (printed heads payload)).header? name = leastValue? name heads := by
  rw [ofText_printed heads hmark, header?_ofList, List.filter_append,
    filter_entries_of_versions h.versions, filter_payloadEntries_of_nameApart h hwhole,
    List.append_nil, SortedMap.leastBy_map, List.getLast?_map, Option.bind_map]
  exact Option.map_eq_bind.symm

/-- A name without header lines is found alike in recased outputs. -/
theorem header?_congr_of_lines (hcase : Head.Recased heads others)
    (hlines : linesNamed name heads = []) (hwhole : WholeApart payload name)
    (hmark : ¬ headMark <+: Text.trim payload.toList) :
    (ofText (printed heads payload)).header? name =
      (ofText (printed others payload)).header? name := by
  rw [ofText_printed heads hmark, ofText_printed others hmark, header?_ofList, header?_ofList,
    List.filter_append, List.filter_append, filter_entries_of_lines hlines,
    filter_entries_of_lines (linesNamed_eq_nil_of_recased hcase hlines),
    map_status_of_recased hcase,
    filter_payloadEntries hwhole (printed heads payload) (printed others payload)]

/-- Letter case goes both ways. -/
theorem sameName_symm (a b : String) : sameName a b = sameName b a :=
  Bool.beq_comm

theorem sameName_trans {a b c : String} (hab : sameName a b = true) :
    sameName a c = sameName b c := by
  unfold sameName at hab ⊢
  rw [eq_of_beq hab]

/-- A name of a header line is apart when all header lines are. -/
theorem nameApart_of_lines (hversions : ∀ h ∈ heads, ∀ g ∈ heads, ∀ l ∈ g.headers,
      sameName h.version l.name = false)
    (hmembers : ∀ members, Json.ofChars? (Text.trim payload.toList) = some (.object members) →
      ∀ e ∈ members, ∀ g ∈ heads, ∀ l ∈ g.headers, sameName e.1 l.name = false)
    (hlines : linesNamed name heads ≠ []) : NameApart heads payload name := by
  obtain ⟨l, hl⟩ := List.exists_mem_of_ne_nil _ hlines
  obtain ⟨hl, hname⟩ := List.mem_filter.1 hl
  obtain ⟨g, hg, hl⟩ := List.mem_flatMap.1 hl
  have hsame : ∀ other, sameName other l.name = sameName other name := fun other => by
    rw [sameName_symm other, sameName_trans hname, sameName_symm]
  refine ⟨fun h hh => ?_, fun members hread e he => ?_⟩
  · rw [← hsame]
    exact hversions h hh g hg l hl
  · rw [← hsame]
    exact hmembers members hread e he g hg l hl

/-- In recased heads the same names are apart. -/
theorem NameApart.recased (h : NameApart heads payload name) (hcase : Head.Recased heads others) :
    NameApart others payload name := by
  refine ⟨fun other hother => ?_, h.members⟩
  have hversions : heads.map Head.version = others.map Head.version := by
    have hmap := congrArg (List.map Prod.fst) hcase
    rwa [List.map_map, List.map_map] at hmap
  have hmem : other.version ∈ heads.map Head.version := by
    rw [hversions]
    exact List.mem_map_of_mem hother
  obtain ⟨head, hhead, hversion⟩ := List.mem_map.1 hmem
  rw [← hversion]
  exact h.versions head hhead

/-- **Headers in two outputs that differ only in the letter case of their names.** A name that
header lines have, or that nothing else has, leads in each of the outputs to the value of the last
line with the least spelling. If in both of them no line has a lesser spelling than the last one,
then every name leads to the same in both, and a name of header lines to the value of the last of
these. -/
theorem header?_recased (hcase : Head.Recased heads others)
    (hmark : ¬ headMark <+: Text.trim payload.toList)
    (hversions : ∀ h ∈ heads, ∀ g ∈ heads, ∀ l ∈ g.headers, sameName h.version l.name = false)
    (hmembers : ∀ members, Json.ofChars? (Text.trim payload.toList) = some (.object members) →
      ∀ e ∈ members, ∀ g ∈ heads, ∀ l ∈ g.headers, sameName e.1 l.name = false)
    (hwhole : WholeApart payload name) :
    (linesNamed name heads ≠ [] ∨ NameApart heads payload name →
        (ofText (printed heads payload)).header? name = leastValue? name heads ∧
        (ofText (printed others payload)).header? name = leastValue? name others) ∧
      (LastIsLeast name heads → LastIsLeast name others →
        (ofText (printed heads payload)).header? name =
            (ofText (printed others payload)).header? name ∧
          (linesNamed name heads ≠ [] ∨ NameApart heads payload name →
            (ofText (printed heads payload)).header? name = lastValue? name heads)) := by
  have hfound : linesNamed name heads ≠ [] ∨ NameApart heads payload name →
      (ofText (printed heads payload)).header? name = leastValue? name heads ∧
      (ofText (printed others payload)).header? name = leastValue? name others := by
    intro h
    have hapart : NameApart heads payload name :=
      h.elim (nameApart_of_lines hversions hmembers) id
    exact ⟨header?_of_nameApart hapart hwhole hmark,
      header?_of_nameApart (hapart.recased hcase) hwhole hmark⟩
  refine ⟨hfound, fun hleast hleast' => ⟨?_, fun h => ?_⟩⟩
  · by_cases hlines : linesNamed name heads = []
    · exact header?_congr_of_lines hcase hlines hwhole hmark
    · obtain ⟨hheads, hothers⟩ := hfound (.inl hlines)
      rw [hheads, hothers, leastValue?_eq_lastValue? hleast, leastValue?_eq_lastValue? hleast',
        lastValue?_of_recased hcase]
  · rw [(hfound h).1, leastValue?_eq_lastValue? hleast]

end Printed

/-- The header line with capitals in its name. -/
def capitalLine (l : HeaderLine) : HeaderLine where
  name := "X-Id"
  value := l.value
  value_trimmed := l.value_trimmed
  value_line := l.value_line

/-- A head that spells the name of its header with capitals the second time. -/
def risingHead : Head :=
  { repeatingHead with headers := repeatingHead.headers.modify 1 capitalLine }

/-- A head that spells the name of its header with capitals the first time. -/
def fallingHead : Head :=
  { repeatingHead with headers := repeatingHead.headers.modify 0 capitalLine }

/-- A body that has no name of a header. -/
def plainBody : String := "\x7b\"text\":\"t\"\x7d"

theorem ofChars?_plainBody :
    Json.ofChars? (Text.trim plainBody.toList) = some (.object [("text", .string "t")]) := by cbv

theorem not_mark_plainBody : ¬ headMark <+: Text.trim plainBody.toList := by decide

/-- Neither a version nor the body has the name of a header of `repeatingHead`. -/
theorem nameApart_plainBody {head : Head} (hversion : head.version = "HTTP/2") :
    NameApart [head] plainBody "x-id" := by
  refine ⟨fun h hh => ?_, fun members hread e he => ?_⟩
  · obtain rfl := List.mem_singleton.1 hh
    rw [hversion]
    decide
  · rw [ofChars?_plainBody] at hread
    cases hread
    obtain rfl := List.mem_singleton.1 he
    decide

theorem name_of_mem_repeatingHead {l : HeaderLine} (h : l ∈ repeatingHead.headers) :
    l.name = "x-id" := by
  rcases List.mem_cons.1 h with rfl | h
  · rfl
  · obtain rfl := List.mem_singleton.1 h
    rfl

/-- A capital in the last line does no harm. -/
theorem header?_recased_risingHead :
    Head.Recased [repeatingHead] [risingHead] ∧ linesNamed "X-ID" [repeatingHead] ≠ [] ∧
      LastIsLeast "X-ID" [repeatingHead] ∧ LastIsLeast "X-ID" [risingHead] ∧
      (ofText (printed [repeatingHead] plainBody)).header? "X-ID" = some "b" ∧
      (ofText (printed [risingHead] plainBody)).header? "X-ID" = some "b" := by
  have hcase : Head.Recased [repeatingHead] [risingHead] := rfl
  have hversions : ∀ h ∈ [repeatingHead], ∀ g ∈ [repeatingHead], ∀ l ∈ g.headers,
      sameName h.version l.name = false := by
    intro h hh g hg l hl
    obtain rfl := List.mem_singleton.1 hh
    obtain rfl := List.mem_singleton.1 hg
    rw [name_of_mem_repeatingHead hl]
    decide
  have hmembers : ∀ members,
      Json.ofChars? (Text.trim plainBody.toList) = some (.object members) →
        ∀ e ∈ members, ∀ g ∈ [repeatingHead], ∀ l ∈ g.headers, sameName e.1 l.name = false := by
    intro members hread e he g hg l hl
    obtain rfl := List.mem_singleton.1 hg
    rw [name_of_mem_repeatingHead hl]
    have happart : NameApart [repeatingHead] plainBody "x-id" := nameApart_plainBody rfl
    exact happart.members members hread e he
  have hwhole : WholeApart plainBody "X-ID" := fun _ => ⟨_, ofChars?_plainBody⟩
  have hlines : linesNamed "X-ID" [repeatingHead] = repeatingHead.headers := rfl
  have hlines' : linesNamed "X-ID" [risingHead] = risingHead.headers := rfl
  have hleast : LastIsLeast "X-ID" [repeatingHead] := by
    intro last hlast l hl
    rw [hlines] at hlast hl
    rw [name_of_mem_repeatingHead hl, name_of_mem_repeatingHead (List.mem_of_getLast? hlast)]
    decide
  have hleast' : LastIsLeast "X-ID" [risingHead] := by
    intro last hlast l hl
    rw [hlines'] at hlast hl
    obtain rfl := Option.some.inj hlast
    rcases List.mem_cons.1 hl with rfl | hl
    · decide
    · obtain rfl := List.mem_singleton.1 hl
      decide
  have hne : linesNamed "X-ID" [repeatingHead] ≠ [] := by
    rw [hlines]
    exact List.cons_ne_nil _ _
  obtain ⟨-, hlast⟩ := header?_recased hcase not_mark_plainBody hversions hmembers hwhole
  obtain ⟨hboth, hvalue⟩ := hlast hleast hleast'
  have hfound := hvalue (.inl hne)
  exact ⟨hcase, hne, hleast, hleast', hfound, hboth.symm.trans hfound⟩

/-- A capital in a line before the last one changes what is found. -/
theorem not_header?_recased :
    Head.Recased [repeatingHead] [fallingHead] ∧
      (ofText (printed [repeatingHead] plainBody)).header? "x-id" = some "b" ∧
      (ofText (printed [fallingHead] plainBody)).header? "x-id" = some "a" ∧
      lastValue? "x-id" [fallingHead] = some "b" := by
  have hwhole : WholeApart plainBody "x-id" := fun _ => ⟨_, ofChars?_plainBody⟩
  refine ⟨rfl, ?_, ?_, rfl⟩
  · rw [header?_of_nameApart (nameApart_plainBody rfl) hwhole not_mark_plainBody]
    decide
  · rw [header?_of_nameApart (nameApart_plainBody rfl) hwhole not_mark_plainBody]
    decide

end Answer

end ModelProbe
