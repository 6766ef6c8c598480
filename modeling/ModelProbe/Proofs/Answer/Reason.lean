import Mathlib
import ModelProbe.Proofs.Answer.Denial
import ModelProbe.Proofs.Text.Trimming
/-!
# The first line that gives a reason

The verdict on a denial hangs on one value: what stands behind the first name of the reason's
header, up to the end of the line. What stands before the name and behind the line does not count.

* `afterFolded?_append_colon`: what stands behind the first name with a colon is found.
* `check_denied_reasonLine`: the verdict as a reading of that value.
-/

namespace ModelProbe

namespace Denial

variable {piece : List Char}

/-! ## The first name with a colon -/

/-- A colon is spelled by a colon only. -/
theorem eq_of_sameLetter_colon {c : Char} (h : sameLetter ':' c = true) : c = ':' := by
  have hlower : c.toLower = ':' := by simpa [sameLetter] using h
  unfold Char.toLower at hlower
  split at hlower
  · next hupper =>
    -- A lower-case letter is not the colon.
    exfalso
    have hnat := congrArg (fun c => c.val.toNat) hlower
    simp only [ge_iff_le, UInt32.le_iff_toNat_le] at hupper
    simp only [UInt32.toNat_add, UInt32.toNat_sub] at hnat
    simp at hupper hnat
    omega
  · exact hlower

/-- What spells a piece with a colon is a spelling of the piece and a colon. -/
theorem exists_of_spells_colon {t : List Char} (h : Spells (piece ++ [':']) t) :
    ∃ name, Spells piece name ∧ t = name ++ [':'] := by
  induction piece generalizing t with
  | nil =>
    cases h with
    | cons hc hnil =>
      cases hnil
      exact ⟨[], .nil, by rw [eq_of_sameLetter_colon hc, List.nil_append]⟩
  | cons p ps ih =>
    cases h with
    | cons hc h =>
      obtain ⟨name, hname, rfl⟩ := ih h
      exact ⟨_ :: name, .cons hc hname, rfl⟩

/-- **What stands behind the first name with a colon is found.** A name that has no colon itself
cannot begin in front of its first occurrence and end in it. -/
theorem afterFolded?_append_colon (hpiece : Apart piece ':') {a name : List Char}
    (ha : ¬ Mentions (piece ++ [':']) a) (hname : Spells piece name) (s : List Char) :
    afterFolded? (piece ++ [':']) (a ++ (name ++ ':' :: s)) = some s := by
  induction a with
  | nil =>
    have hspells : Spells (piece ++ [':']) (name ++ [':']) :=
      List.rel_append hname (.cons (by decide) .nil)
    have hfound := afterFolded?_of_spells hspells s
    rw [List.append_assoc] at hfound
    exact hfound
  | cons x a ih =>
    rw [mentions_cons_iff, not_or] at ha
    rw [List.cons_append, afterFolded?, dropFolded?_eq_none_iff.2, ih ha.2]
    intro t ht hstart
    obtain ⟨name', hname', rfl⟩ := exists_of_spells_colon ht
    obtain ⟨more, hmore⟩ := hstart
    -- The text is cut at its first colon, in front of which `name'` stands.
    have hcut : Text.splitFirst? ':' (x :: a ++ (name ++ ':' :: s)) = some (name', more) := by
      rw [List.cons_append, ← hmore, List.append_assoc]
      exact Text.splitFirst?_append (hpiece.not_mem hname') more
    cases hown : Text.splitFirst? ':' (x :: a) with
    | some halves =>
      obtain ⟨before, after⟩ := halves
      obtain ⟨hsplit, hbefore⟩ := Text.splitFirst?_eq_some hown
      rw [hsplit, List.append_assoc, List.cons_append, Text.splitFirst?_append hbefore] at hcut
      obtain ⟨rfl, -⟩ := Prod.mk.inj (Option.some.inj hcut)
      refine ha.1 ⟨_, ht, after, ?_⟩
      rw [hsplit, List.append_assoc]
      rfl
    | none =>
      have hfree := Text.splitFirst?_eq_none_iff.1 hown
      have hboth : ':' ∉ x :: a ++ name := by
        rw [List.mem_append, not_or]
        exact ⟨hfree, hpiece.not_mem hname⟩
      rw [← List.append_assoc, Text.splitFirst?_append hboth] at hcut
      obtain ⟨hsame, -⟩ := Prod.mk.inj (Option.some.inj hcut)
      have hlength := congrArg List.length hsame
      rw [List.length_append, List.length_cons, ← hname.length_eq, ← hname'.length_eq] at hlength
      omega

/-! ## Letter case of ASCII -/

/-- The piece stands somewhere in the text, but for the case of ASCII letters. -/
def ContainsFolded (piece s : List Char) : Prop := ∃ t, t <:+: s ∧ t.map Char.toLower = piece

/-- Without an s, a piece is spelled by its letters in both cases only. -/
theorem spells_iff_map_toLower (hpiece : 's' ∉ piece) {t : List Char} :
    Spells piece t ↔ t.map Char.toLower = piece := by
  constructor
  · intro h
    induction h with
    | nil => rfl
    | @cons p c ps t hc _ ih =>
      rw [List.mem_cons, not_or] at hpiece
      have hletter : c.toLower = p := by simpa [sameLetter, Ne.symm hpiece.1] using hc
      rw [List.map_cons, hletter, ih hpiece.2]
  · rintro rfl
    exact spells_map_toLower t

/-- Without an s, a piece is mentioned where it is contained. -/
theorem mentions_eq_true_iff_containsFolded (hpiece : 's' ∉ piece) {s : List Char} :
    mentions piece s = true ↔ ContainsFolded piece s := by
  rw [mentions_eq_true_iff, Mentions, ContainsFolded]
  simp only [spells_iff_map_toLower hpiece, and_comm]

/-- The reasons that are right for a call with a token, and for one without. -/
theorem accepts_eq_true_iff (hasToken : Bool) (reason : List Char) :
    accepts hasToken reason = true ↔
      if hasToken then
        ContainsFolded "not authenticated".toList reason ∨
          ContainsFolded "not authorized".toList reason
      else ContainsFolded "credential not found".toList reason := by
  have hfree : 's' ∉ "not authenticated".toList ∧ 's' ∉ "not authorized".toList ∧
      's' ∉ noCredential.toList := by decide
  have hauthenticated := mentions_eq_true_iff_containsFolded hfree.1 (s := reason)
  have hauthorized := mentions_eq_true_iff_containsFolded hfree.2.1 (s := reason)
  have hcredential := mentions_eq_true_iff_containsFolded hfree.2.2 (s := reason)
  cases hasToken with
  | true =>
    simp only [accepts, if_true, Bool.or_eq_true, hauthenticated, hauthorized]
  | false =>
    simp only [accepts, Bool.false_eq_true, if_false, hcredential]
    rfl

/-! ## Reason lines -/

/-- The first line of an output that gives a reason: behind a text without the name of the reason's
header stand the name in some case of its letters, a colon, and the value up to the end of the
line. -/
structure ReasonLine (raw : List Char) where
  before : List Char
  name : List Char
  value : List Char
  rest : List Char
  output : raw = before ++ (name ++ ':' :: (value ++ rest))
  first : ¬ Mentions mark before
  named : name.map Char.toLower = reasonName.toList
  oneLine : OnOneLine value
  ends : ∀ c ∈ rest.head?, c = '\r' ∨ c = '\n'

/-- What is found in an output with a reason line is its value. -/
theorem line_of_reasonLine {raw : List Char} (l : ReasonLine raw) :
    (afterFolded? mark raw).map line = some l.value := by
  have hmark : mark = reasonName.toList ++ [':'] := by decide
  have hname : Spells reasonName.toList l.name := by
    rw [← l.named]
    exact spells_map_toLower l.name
  have hfirst := l.first
  rw [hmark] at hfirst
  have hfound := afterFolded?_append_colon (by decide) hfirst hname (l.value ++ l.rest)
  have hkeep : ∀ c ∈ l.value, (c != '\r' && c != '\n') = true := by
    intro c hc
    obtain ⟨hreturn, hfeed⟩ := l.oneLine c hc
    simp [hreturn, hfeed]
  have hstop : line l.rest = [] := by
    cases hrest : l.rest with
    | nil => rfl
    | cons c more =>
      have hc := l.ends c (by rw [hrest]; rfl)
      rcases hc with rfl | rfl <;> rfl
  rw [line] at hstop
  rw [← l.output, ← hmark] at hfound
  rw [hfound, Option.map_some, line, List.takeWhile_append_of_pos hkeep, hstop, List.append_nil]

/-- The reason of an output with a reason line is its value without the blanks around it, if
anything is left of it. -/
theorem reason?_of_reasonLine {raw : List Char} (l : ReasonLine raw) :
    reason? raw =
      if Text.isBlankText l.value = true then none else some (Text.trim l.value) := by
  have hline := line_of_reasonLine l
  cases hfound : afterFolded? mark raw with
  | none =>
    rw [hfound] at hline
    cases hline
  | some rest =>
    rw [hfound] at hline
    have hvalue : line rest = l.value := Option.some.inj hline
    rw [reason?, hfound]
    dsimp only
    rw [hvalue]
    simp only [List.isEmpty_iff, Text.trim_eq_nil_iff]

/-- The verdict on an output with a reason line. -/
theorem checkDenied_of_reasonLine {a : Answer} (l : ReasonLine a.raw.toList)
    (token : Option String) :
    a.checkDenied token =
      if Text.isBlankText l.value = true then .error (.reasonMissing a.raw)
      else if accepts (token.any fun t => !t.isEmpty) (Text.trim l.value) = true then .ok ()
      else .error (.reasonMismatch (expected (token.any fun t => !t.isEmpty))
        (String.ofList (Text.trim l.value))) := by
  rw [Answer.checkDenied, reason?_of_reasonLine l]
  by_cases hblank : Text.isBlankText l.value = true
  · rw [if_pos hblank, if_pos hblank]
  · rw [if_neg hblank, if_neg hblank]

/-- A call has a token when it is given one that is not empty. -/
theorem hasToken_iff (token : Option String) :
    (token.any fun t => !t.isEmpty) = true ↔ ∃ t, token = some t ∧ t ≠ "" := by
  cases token <;> simp

/-- **The first reason line decides.** A call that was turned away is verified by the value of the
first line that gives a reason. Without such a line, or with a blank value, the reason is missing.
Otherwise the value without the blanks around it is the reason: with a token that is not empty it
must say that the call is not authenticated or not authorized, and without one that no credential
was found, in any case of its letters. -/
theorem check_denied_reasonLine (entry : Entry) (a : Answer) (token : Option String) :
    (∀ l : ReasonLine a.raw.toList,
      (a.check entry .denied token = .error (.reasonMissing a.raw) ↔
        Text.isBlankText l.value = true) ∧
      (Text.isBlankText l.value = false →
        ((∃ t, token = some t ∧ t ≠ "") →
          (a.check entry .denied token = .ok () ↔
            ContainsFolded "not authenticated".toList (Text.trim l.value) ∨
              ContainsFolded "not authorized".toList (Text.trim l.value))) ∧
        ((¬ ∃ t, token = some t ∧ t ≠ "") →
          (a.check entry .denied token = .ok () ↔
            ContainsFolded "credential not found".toList (Text.trim l.value))) ∧
        (a.check entry .denied token ≠ .ok () →
          a.check entry .denied token =
            .error (.reasonMismatch (expected (token.any fun t => !t.isEmpty))
              (String.ofList (Text.trim l.value)))))) ∧
    (¬ Mentions mark a.raw.toList →
      a.check entry .denied token = .error (.reasonMissing a.raw)) := by
  rw [Answer.check]
  refine ⟨fun l => ?_, fun hnone => ?_⟩
  · have haccepts := accepts_eq_true_iff (token.any fun t => !t.isEmpty) (Text.trim l.value)
    rw [checkDenied_of_reasonLine l token, ← hasToken_iff]
    by_cases hblank : Text.isBlankText l.value = true
    · rw [if_pos hblank, hblank]
      exact ⟨iff_of_true rfl rfl, fun h => absurd h (by decide)⟩
    · rw [if_neg hblank]
      refine ⟨iff_of_false ?_ hblank, fun _ => ⟨fun htoken => ?_, fun htoken => ?_, fun hno => ?_⟩⟩
      · split <;> simp
      · rw [htoken, if_pos rfl] at haccepts
        rw [htoken, ← haccepts]
        split <;> simp_all
      · rw [if_neg htoken] at haccepts
        rw [← haccepts]
        split <;> simp_all
      · split at hno
        · exact absurd rfl hno
        · next hright => rw [if_neg hright]
  · rw [Answer.checkDenied, reason?, afterFolded?_eq_none_iff.2 hnone]

/-- An output in which a header's value is the name without a colon, and two lines give a reason. -/
def reasonOutput : String :=
  "via: x-ext-auth-reason\nX-Ext-AUTH-reason:\u00a0 Not Authorized\t\rx-ext-auth-reason: x"

/-- Its first line that gives a reason. -/
def reasonOutputLine : ReasonLine (Answer.ofText reasonOutput).raw.toList where
  before := "via: x-ext-auth-reason\n".toList
  name := "X-Ext-AUTH-reason".toList
  value := "\u00a0 Not Authorized\t".toList
  rest := "\rx-ext-auth-reason: x".toList
  output := by decide +kernel
  first := by decide +kernel
  named := by decide +kernel
  oneLine := by decide +kernel
  ends := by
    intro c hc
    exact .inl (Option.some.inj hc).symm

theorem check_denied_reasonLine_reasonOutput :
    Text.isBlankText reasonOutputLine.value = false ∧
      (Answer.ofText reasonOutput).check default .denied (some "t") = .ok () ∧
      (Answer.ofText reasonOutput).check default .denied (some "") =
        .error (.reasonMismatch noCredential "Not Authorized") ∧
      ¬ Mentions mark (Answer.ofText "HTTP/2 403").raw.toList ∧
      (Answer.ofText "HTTP/2 403").check default .denied none =
        .error (.reasonMissing "HTTP/2 403") := by
  have hblank : Text.isBlankText reasonOutputLine.value = false := by decide +kernel
  have hinfix : "Not Authorized".toList <:+: Text.trim reasonOutputLine.value := by decide +kernel
  have hmissing : ¬ Mentions mark (Answer.ofText "HTTP/2 403").raw.toList := by decide +kernel
  have hfree : 's' ∉ "credential not found".toList := by decide
  have hother : ¬ ContainsFolded "credential not found".toList
      (Text.trim reasonOutputLine.value) := by
    rw [← mentions_eq_true_iff_containsFolded hfree]
    decide +kernel
  have hgiven := (check_denied_reasonLine default (Answer.ofText reasonOutput) (some "t")).1
    reasonOutputLine
  have hempty := (check_denied_reasonLine default (Answer.ofText reasonOutput) (some "")).1
    reasonOutputLine
  have hnot := mt ((hempty.2 hblank).2.1 (by simp)).1 hother
  have hvalue : String.ofList (Text.trim reasonOutputLine.value) = "Not Authorized" := by
    decide +kernel
  have hmismatch := (hempty.2 hblank).2.2 hnot
  rw [hvalue] at hmismatch
  have hnone := (check_denied_reasonLine default (Answer.ofText "HTTP/2 403") none).2 hmissing
  rw [Answer.raw_ofText] at hnone
  have hok := ((hgiven.2 hblank).1 ⟨"t", rfl, by decide⟩).2
    (.inr ⟨_, hinfix, by decide +kernel⟩)
  exact ⟨hblank, hok, hmismatch, hmissing, hnone⟩

end Denial

end ModelProbe
