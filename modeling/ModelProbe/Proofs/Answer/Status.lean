import Mathlib
import ModelProbe.Proofs.Answer.Decode
import ModelProbe.Proofs.Text.Digits
/-!
# The status code of an answer

The status lines of an answer stand in its table under their versions, by increasing version, and
a later head takes the place of an earlier one with the same version. So the status code that is
found is that of the head with the greatest version, and of the last one among these. It is the
code of the last head when no version before is greater.

* `exists_leading`: where the head with the greatest version stands.
* `statusCode?_printed`: the status code of a printed output.
-/

namespace ModelProbe

/-! ## Status codes -/

namespace Text

/-- Reading a word goes on to its end. -/
theorem words_go_append {s : List Char} (hs : Solid s) :
    ∀ word rest : List Char, words.go word (s ++ rest) = words.go (s.reverse ++ word) rest := by
  induction s with
  | nil => intro word rest; rfl
  | cons c s ih =>
    intro word rest
    have hc : isBlank c = false := hs c (by simp)
    rw [List.cons_append, words.go, if_neg (by simp [hc]),
      ih (fun d hd => hs d (List.mem_cons_of_mem c hd)), List.reverse_cons, List.append_assoc]
    rfl

/-- A text that begins with a word has it as its first word. -/
theorem head?_words_append {s : List Char} (hs : Solid s) (hne : s ≠ []) {rest : List Char}
    (hrest : rest.head?.all isBlank = true) : (words (s ++ rest)).head? = some s := by
  have hword : (s.reverse ++ []).isEmpty = false := by simpa using hne
  rw [words, words_go_append hs]
  cases rest with
  | nil =>
    rw [words.go, hword]
    simp
  | cons c rest =>
    have hc : isBlank c = true := hrest
    rw [words.go, if_pos hc, hword]
    simp

/-- Decimal digits are no blanks. -/
theorem solid_of_isDigit {s : List Char} (hs : ∀ c ∈ s, c.isDigit = true) : Solid s :=
  fun c hc => isBlank_of_isDigit (hs c hc)

end Text

/-! ## Heads with a status code -/

/-- A response head whose status begins with a code of decimal digits. After it stands a blank, and
a reason perhaps, or nothing. -/
structure CodedHead extends Head where
  code : UInt16
  digits : List Char
  reason : List Char
  status_eq : status.toList = digits ++ reason
  digits_ne : digits ≠ []
  all_digits : ∀ c ∈ digits, c.isDigit = true
  value : Text.digitsValue digits = code.toNat
  reason_apart : reason.head?.all Text.isBlank = true

namespace CodedHead

/-- The status code that a status has. -/
theorem readUInt16?_status (h : CodedHead) :
    (Text.words h.status.toList).head?.bind Text.readUInt16? = some h.code := by
  rw [h.status_eq, Text.head?_words_append (Text.solid_of_isDigit h.all_digits) h.digits_ne
    h.reason_apart]
  exact Text.readUInt16?_digits h.digits_ne h.all_digits h.value

/-- Whether the version of a head is at most that of another one. -/
def VersionLE (a b : CodedHead) : Prop := (compare a.version b.version).isLE = true

/-- Of two heads in a row, the one whose status line stands last in a table: the second, unless its
version is less. -/
def later (a b : CodedHead) : CodedHead :=
  if (compare a.version b.version).isLE then b else a

/-- The head whose status line stands last in the table of these heads. -/
def leading (first : CodedHead) (rest : List CodedHead) : CodedHead := rest.foldl later first

/-- **Where the leading head stands.** No head before it has a greater version, and every head
after it has a lesser one. -/
theorem exists_leading (first : CodedHead) (rest : List CodedHead) :
    ∃ before after, first :: rest = before ++ leading first rest :: after ∧
      (∀ h ∈ before, VersionLE h (leading first rest)) ∧
      ∀ h ∈ after, compare h.version (leading first rest).version = .lt := by
  induction rest using List.reverseRecOn with
  | nil => exact ⟨[], [], rfl, by simp, by simp⟩
  | append_singleton rest h ih =>
    obtain ⟨before, after, hlist, hbefore, hafter⟩ := ih
    have hstep : leading first (rest ++ [h]) = later (leading first rest) h := by
      rw [leading, List.foldl_append]
      rfl
    rw [hstep, later]
    split
    · next hle =>
      refine ⟨first :: rest, [], rfl, fun g hg => ?_, by simp⟩
      rw [hlist, List.mem_append, List.mem_cons] at hg
      rcases hg with hg | rfl | hg
      · exact Std.TransCmp.isLE_trans (hbefore g hg) hle
      · exact hle
      · exact Std.TransCmp.isLE_trans (by rw [hafter g hg]; rfl) hle
    · next hgt =>
      refine ⟨before, after ++ [h], ?_, hbefore, fun g hg => ?_⟩
      · rw [← List.cons_append, hlist, List.append_assoc, List.cons_append]
      · rw [List.mem_append, List.mem_singleton] at hg
        rcases hg with hg | rfl
        · exact hafter g hg
        · cases hcompare : compare (leading first rest).version g.version with
          | lt => rw [hcompare] at hgt; exact absurd rfl hgt
          | eq => rw [hcompare] at hgt; exact absurd rfl hgt
          | gt => exact Std.OrientedCmp.lt_of_gt hcompare

/-- The last head leads when no version before it is greater. -/
theorem leading_eq_last {first last : CodedHead} {rest before : List CodedHead}
    (hlist : first :: rest = before ++ [last]) (hlast : ∀ h ∈ before, VersionLE h last) :
    leading first rest = last := by
  cases before with
  | nil =>
    obtain ⟨rfl, rfl⟩ := List.cons.inj hlist
    rfl
  | cons first' before =>
    obtain ⟨rfl, rfl⟩ := List.cons.inj hlist
    obtain ⟨earlier, after, hbefore, -, -⟩ := exists_leading first before
    have hle : VersionLE (leading first before) last := hlast _ (by rw [hbefore]; simp)
    show leading first (before ++ [last]) = last
    rw [leading, List.foldl_append]
    exact if_pos hle

end CodedHead

namespace Answer

/-! ## Status lines in a table -/

/-- When headers have other names, what stands under a version among the entries of heads is a
status line. -/
theorem eq_status_of_mark {heads : List CodedHead} {others : List (String × Json)}
    (hnames : ∀ h ∈ heads, ∀ l ∈ h.headers, ¬ headMark <+: l.name.toList)
    (hothers : ∀ e ∈ others, ¬ headMark <+: e.1.toList) {e : String × Json}
    (he : e ∈ (heads.map CodedHead.toHead).flatMap Head.entries ++ others)
    (hmark : headMark <+: e.1.toList) : ∃ h ∈ heads, e = (h.version, .string h.status) := by
  rw [List.mem_append, List.mem_flatMap] at he
  rcases he with ⟨head, hhead, he⟩ | he
  · obtain ⟨h, hh, rfl⟩ := List.mem_map.1 hhead
    rw [Head.entries, List.mem_cons, List.mem_map] at he
    rcases he with rfl | ⟨l, hl, rfl⟩
    · exact ⟨h, hh, rfl⟩
    · exact absurd hmark (hnames h hh l hl)
  · exact absurd hmark (hothers e he)

/-- Under the version of a head after which there are only lesser versions stands its status. -/
theorem get?_version {before after : List CodedHead} {top : CodedHead}
    {others : List (String × Json)}
    (hnames : ∀ h ∈ before ++ top :: after, ∀ l ∈ h.headers, ¬ headMark <+: l.name.toList)
    (hothers : ∀ e ∈ others, ¬ headMark <+: e.1.toList)
    (hafter : ∀ h ∈ after, compare h.version top.version = .lt) :
    (SortedMap.ofList (((before ++ top :: after).map CodedHead.toHead).flatMap Head.entries ++
      others)).get? top.version = some (.string top.status) := by
  let later := top.headers.map (fun l => (l.name, Json.string l.value)) ++
    ((after.map CodedHead.toHead).flatMap Head.entries ++ others)
  have hsplit : ((before ++ top :: after).map CodedHead.toHead).flatMap Head.entries ++ others =
      (before.map CodedHead.toHead).flatMap Head.entries ++
        (top.version, .string top.status) :: later := by
    simp [later, Head.entries]
  -- What comes later stands under other names.
  have hlater : ∀ e ∈ later.reverse, top.version ≠ e.1 := by
    intro e he heq
    have hmark : headMark <+: e.1.toList := heq ▸ top.version_mark
    rw [List.mem_reverse, List.mem_append, List.mem_map] at he
    rcases he with ⟨l, hl, rfl⟩ | he
    · exact hnames top (by simp) l hl hmark
    · obtain ⟨h, hh, rfl⟩ := eq_status_of_mark (fun h hh => hnames h (by simp [hh])) hothers he hmark
      have hlt := hafter h hh
      rw [heq] at hlt
      exact absurd (hlt.symm.trans Std.ReflCmp.compare_self) (by decide)
  rw [SortedMap.get?_ofList, hsplit, List.reverse_append, List.reverse_cons, List.append_assoc,
    List.lookup_append]
  have hnone : later.reverse.lookup top.version = none := by
    rw [List.lookup_eq_none_iff]
    intro e he
    simpa using hlater e he
  rw [hnone, Option.none_or, List.singleton_append, List.lookup_cons_self]

/-- **The status code of a table** of heads and entries under other names is that of the leading
head. -/
theorem statusCode?_table {first : CodedHead} {rest : List CodedHead}
    {others : List (String × Json)}
    (hnames : ∀ h ∈ first :: rest, ∀ l ∈ h.headers, ¬ headMark <+: l.name.toList)
    (hothers : ∀ e ∈ others, ¬ headMark <+: e.1.toList) (raw : String) :
    (Answer.mk raw (SortedMap.ofList
      (((first :: rest).map CodedHead.toHead).flatMap Head.entries ++ others))).statusCode? =
        some (CodedHead.leading first rest).code := by
  obtain ⟨before, after, hlist, hbefore, hafter⟩ := CodedHead.exists_leading first rest
  generalize CodedHead.leading first rest = top at hlist hbefore hafter ⊢
  rw [hlist] at hnames ⊢
  unfold statusCode?
  refine SortedMap.getLast?_filterMap (get?_version hnames hothers hafter) ?_ ?_
  · obtain ⟨more, hmore⟩ := top.version_mark
    show ((Text.dropPiece? headMark top.version.toList).bind fun _ =>
      (Text.words top.status.toList).head?.bind Text.readUInt16?) = some top.code
    rw [Text.dropPiece?_eq_some_iff.2 hmore.symm, Option.bind_some, top.readUInt16?_status]
  · intro e he hlt
    cases hdrop : Text.dropPiece? headMark e.1.toList with
    | none =>
      show ((Text.dropPiece? headMark e.1.toList).bind fun _ => _) = none
      rw [hdrop, Option.bind_none]
    | some more =>
      -- No status line stands under a greater version.
      have hmark : headMark <+: e.1.toList := ⟨more, (Text.dropPiece?_eq_some_iff.1 hdrop).symm⟩
      have hget := (SortedMap.mem_toList_iff _ e.1 e.2).1 he
      rw [SortedMap.get?_ofList] at hget
      have hmem := List.mem_reverse.1 (SortedMap.mem_of_lookup_eq_some hget)
      obtain ⟨h, hh, heq⟩ := eq_status_of_mark hnames hothers hmem hmark
      obtain ⟨hversion, -⟩ := Prod.mk.inj heq
      rw [hversion] at hlt
      rw [List.mem_append, List.mem_cons] at hh
      rcases hh with hh | rfl | hh
      · have hle := hbefore h hh
        rw [CodedHead.VersionLE, Std.OrientedCmp.gt_of_lt hlt] at hle
        cases hle
      · exact absurd (hlt.symm.trans Std.ReflCmp.compare_self) (by decide)
      · rw [Std.OrientedCmp.gt_of_lt (hafter h hh)] at hlt
        cases hlt

/-! ## Status codes of printed outputs -/

/-- The table of an output without names like versions has the leading head's status code. -/
theorem statusCode?_leading {first : CodedHead} {rest : List CodedHead} {payload : String}
    (hnames : ∀ h ∈ first :: rest, ∀ l ∈ h.headers, ¬ headMark <+: l.name.toList)
    (hmark : ¬ headMark <+: Text.trim payload.toList)
    (hmembers : ∀ members, Json.ofChars? (Text.trim payload.toList) = some (.object members) →
      ∀ e ∈ members, ¬ headMark <+: e.1.toList) :
    (ofText (printed ((first :: rest).map CodedHead.toHead) payload)).statusCode? =
      some (CodedHead.leading first rest).code := by
  by_cases hobject : ∃ members, Json.ofChars? (Text.trim payload.toList) = some (.object members)
  · obtain ⟨members, hread⟩ := hobject
    rw [ofText_printed_object _ hread hmark]
    exact statusCode?_table hnames (hmembers members hread) _
  · have hother : ∀ members, Json.ofChars? (Text.trim payload.toList) ≠ some (.object members) :=
      fun members hread => hobject ⟨members, hread⟩
    rw [ofText_printed_other _ hother hmark]
    refine statusCode?_table hnames (fun e he => ?_) _
    obtain rfl := List.mem_singleton.1 he
    show ¬ headMark <+: outputKey.toList
    decide

/-- **The status code of a printed output.** It is the code of the head with the greatest version,
and of the last one among these. So it is the last head's code when no version before is
greater. -/
theorem statusCode?_printed (first : CodedHead) (rest : List CodedHead) (payload : String)
    (hnames : ∀ h ∈ first :: rest, ∀ l ∈ h.headers, ¬ headMark <+: l.name.toList)
    (hmark : ¬ headMark <+: Text.trim payload.toList)
    (hmembers : ∀ members, Json.ofChars? (Text.trim payload.toList) = some (.object members) →
      ∀ e ∈ members, ¬ headMark <+: e.1.toList) :
    (ofText (printed ((first :: rest).map CodedHead.toHead) payload)).statusCode? =
        some (CodedHead.leading first rest).code ∧
      ∀ before last, first :: rest = before ++ [last] →
        (∀ h ∈ before, CodedHead.VersionLE h last) →
          (ofText (printed ((first :: rest).map CodedHead.toHead) payload)).statusCode? =
            some last.code := by
  have hcode := statusCode?_leading hnames hmark hmembers
  refine ⟨hcode, fun before last hlist hlast => ?_⟩
  rw [hcode, CodedHead.leading_eq_last hlist hlast]

/-- The head that says to go on. -/
def continueCode : CodedHead where
  toHead := continueHead
  code := 100
  digits := ['1', '0', '0']
  reason := " Continue".toList
  status_eq := by decide
  digits_ne := by decide
  all_digits := List.all_eq_true.1 (by decide)
  value := rfl
  reason_apart := by decide

/-- The head of a proxy that has opened a tunnel, of a greater version. -/
def tunnelCode : CodedHead where
  toHead := repeatingHead
  code := 200
  digits := ['2', '0', '0']
  reason := []
  status_eq := by decide
  digits_ne := by decide
  all_digits := List.all_eq_true.1 (by decide)
  value := rfl
  reason_apart := by decide

/-- The head of a call that was turned away. -/
def refusedCode : CodedHead where
  toHead := { continueHead with
    status := "401 Unauthorized"
    status_trimmed := by decide
    status_line := by decide }
  code := 401
  digits := ['4', '0', '1']
  reason := " Unauthorized".toList
  status_eq := by decide
  digits_ne := by decide
  all_digits := List.all_eq_true.1 (by decide)
  value := rfl
  reason_apart := by decide

/-- A call that is turned away at last. -/
theorem statusCode?_refusedCode :
    (∀ h ∈ [continueCode, refusedCode], ∀ l ∈ h.headers, ¬ headMark <+: l.name.toList) ∧
      ¬ headMark <+: Text.trim "\x7b\"text\":\"t\"\x7d".toList ∧
      (∀ members, Json.ofChars? (Text.trim "\x7b\"text\":\"t\"\x7d".toList) = some (.object members) →
        ∀ e ∈ members, ¬ headMark <+: e.1.toList) ∧
      (∀ h ∈ [continueCode], CodedHead.VersionLE h refusedCode) ∧
      (ofText (printed ([continueCode, refusedCode].map CodedHead.toHead)
        "\x7b\"text\":\"t\"\x7d")).statusCode? = some 401 := by
  have hnames : ∀ h ∈ [continueCode, refusedCode], ∀ l ∈ h.headers,
      ¬ headMark <+: l.name.toList := by
    intro h hh l hl
    rcases List.mem_cons.1 hh with rfl | hh
    · cases hl
    · obtain rfl := List.mem_singleton.1 hh
      cases hl
  have hmark : ¬ headMark <+: Text.trim "\x7b\"text\":\"t\"\x7d".toList := by decide
  have hread : Json.ofChars? (Text.trim "\x7b\"text\":\"t\"\x7d".toList) =
      some (.object [("text", .string "t")]) := by cbv
  have hmembers : ∀ members,
      Json.ofChars? (Text.trim "\x7b\"text\":\"t\"\x7d".toList) = some (.object members) →
        ∀ e ∈ members, ¬ headMark <+: e.1.toList := by
    intro members h e he
    rw [hread] at h
    cases h
    obtain rfl := List.mem_singleton.1 he
    decide
  have hlast : ∀ h ∈ [continueCode], CodedHead.VersionLE h refusedCode := by
    intro h hh
    obtain rfl := List.mem_singleton.1 hh
    show (compare continueCode.version refusedCode.version).isLE = true
    decide
  have hcode := (statusCode?_printed continueCode [refusedCode] "\x7b\"text\":\"t\"\x7d" hnames
    hmark hmembers).2 [continueCode] refusedCode rfl hlast
  exact ⟨hnames, hmark, hmembers, hlast, hcode⟩

/-- The code that is found behind a head of a greater version is not that of the last head. -/
theorem statusCode?_tunnelCode :
    (∀ h ∈ [tunnelCode, refusedCode], ∀ l ∈ h.headers, ¬ headMark <+: l.name.toList) ∧
      ¬ headMark <+: Text.trim "denied".toList ∧
      (∀ members, Json.ofChars? (Text.trim "denied".toList) = some (.object members) →
        ∀ e ∈ members, ¬ headMark <+: e.1.toList) ∧
      (ofText (printed ([tunnelCode, refusedCode].map CodedHead.toHead) "denied")).statusCode? ≠
        some refusedCode.code := by
  have hnames : ∀ h ∈ [tunnelCode, refusedCode], ∀ l ∈ h.headers,
      ¬ headMark <+: l.name.toList := by
    intro h hh l hl
    rcases List.mem_cons.1 hh with rfl | hh
    · have hname : l.name = "x-id" := by
        rcases List.mem_cons.1 hl with rfl | hl
        · rfl
        · obtain rfl := List.mem_singleton.1 hl
          rfl
      rw [hname]
      decide
    · obtain rfl := List.mem_singleton.1 hh
      cases hl
  have hmark : ¬ headMark <+: Text.trim "denied".toList := by decide
  have hread : Json.ofChars? (Text.trim "denied".toList) = none := by cbv
  have hmembers : ∀ members, Json.ofChars? (Text.trim "denied".toList) = some (.object members) →
      ∀ e ∈ members, ¬ headMark <+: e.1.toList := by
    intro members h
    rw [hread] at h
    cases h
  have hcode := statusCode?_leading hnames hmark hmembers
  have hleading : (CodedHead.leading tunnelCode [refusedCode]).code = 200 := by decide
  refine ⟨hnames, hmark, hmembers, ?_⟩
  rw [hcode, hleading]
  decide

end Answer

end ModelProbe
