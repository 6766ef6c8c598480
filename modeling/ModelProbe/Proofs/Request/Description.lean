import ModelProbe.Proofs.Shell.Word
import ModelProbe.Proofs.Text.Replacing
import ModelProbe.Request
/-!
# What descriptions tell about the token

A description is a line of text in which the token is masked. The line is put together first and
masked last. In a command line the token is quoted like every other word, and a token that has a
quote itself is then no longer there as it was: masking does not find it. All other tokens are
masked without a trace.

* `line_withToken`: the line around the token does not depend on it.
* `text_withToken_eq_iff`: which tokens a description hides.
-/

namespace ModelProbe

/-- The request with this token. -/
def Request.withToken (r : Request) (token : String) : Request := { r with token := some token }

/-- How a transport describes requests. -/
inductive Description
  /-- By the command line for the protocol. -/
  | command (ps : Programs)
  /-- By the HTTP request. -/
  | http
  /-- By the HTTP request, or by the command line for gRPC. -/
  | native (ps : Programs)

namespace Description

/-- The description of a request. -/
def text : Description → Request → String
  | command ps, r => r.describeCommand ps
  | http, r => r.describeHttp
  | native ps, r => r.describeNative ps

/-- Whether requests of a protocol are described by a command line. -/
def isCommandLine : Description → Protocol → Bool
  | command _, _ => true
  | http, _ => false
  | native _, .http => false
  | native _, .grpc => true

/-- The HTTP request in one line. -/
def httpLine (r : Request) : String :=
  "POST " ++ r.target ++ String.join (r.headerLines.map fun line => " [" ++ line ++ "]") ++
    (if r.insecure then " (insecure)" else "")

/-- The line in which the token is masked. -/
def line : Description → Request → String
  | command ps, r => Shell.join (ps.commandLine r)
  | http, r => httpLine r
  | native ps, r =>
    match r.protocol with
    | .http => httpLine r
    | .grpc => Shell.join (ps.commandLine r)

/-- A description is a line with the token masked. -/
theorem text_eq_redact (d : Description) (r : Request) : d.text r = r.redact (d.line r) := by
  cases d with
  | command ps => rfl
  | http => rfl
  | native ps =>
    rw [text, Request.describeNative, line]
    cases r.protocol with
    | http => rfl
    | grpc => rfl

/-! ## The line around the token -/

/-- The token as it stands in the line. -/
def shown (d : Description) (p : Protocol) (token : List Char) : List Char :=
  if d.isCommandLine p then Shell.protect token else token

/-- The texts of an HTTP request in one line, before and after the token. -/
theorem httpLine_withToken (r : Request) :
    ∃ lead trail : List Char, ∀ token : String,
      (httpLine (r.withToken token)).toList = lead ++ ' ' :: (token.toList ++ trail) := by
  refine ⟨"POST ".toList ++ r.target.toList ++
      (String.join (r.ownHeaderLines.map fun line => " [" ++ line ++ "]")).toList ++
        " [Authorization: Bearer".toList,
    ']' :: (if r.insecure then " (insecure)" else "").toList, fun token => ?_⟩
  have hlines : (r.withToken token).headerLines =
      r.ownHeaderLines ++ ["Authorization: Bearer " ++ token] := rfl
  have htarget : (r.withToken token).target = r.target := rfl
  have hinsecure : (r.withToken token).insecure = r.insecure := rfl
  rw [httpLine, hlines, htarget, hinsecure]
  simp

/-- The arguments of a program, before and after the header with the token. -/
theorem args_withToken (r : Request) :
    ∃ before after : List String, after ≠ [] ∧ ∀ token : String,
      Programs.args (r.withToken token) =
        before ++ ("Authorization: Bearer " ++ token) :: after := by
  have hlines : ∀ token : String, (r.withToken token).headerOptions =
      r.ownHeaderLines.flatMap (fun line => ["-H", line]) ++
        ["-H", "Authorization: Bearer " ++ token] := by
    intro token
    have hheaders : (r.withToken token).headerLines =
      r.ownHeaderLines ++ ["Authorization: Bearer " ++ token] := rfl
    rw [Request.headerOptions, hheaders, List.flatMap_append]
    rfl
  -- The token stands in the last header, and the target comes after all headers.
  cases hp : r.protocol with
  | http =>
    refine ⟨["-i", "-s", "-d", r.body] ++ r.ownHeaderLines.flatMap (fun line => ["-H", line]) ++
      ["-H"], (if r.insecure then ["--insecure"] else []) ++ [r.target], by simp, fun token => ?_⟩
    have hprotocol : (r.withToken token).protocol = .http := hp
    rw [Programs.args, hprotocol]
    dsimp only
    have hinsecure : (r.withToken token).insecure = r.insecure := rfl
    rw [Request.curlArgs, hlines, hinsecure]
    simp [Request.withToken]
  | grpc =>
    refine ⟨["-d", r.body] ++ r.ownHeaderLines.flatMap (fun line => ["-H", line]) ++ ["-H"],
      (if r.insecure then ["-insecure"] else []) ++
        r.args.flatMap (fun arg =>
          ("-" ++ arg.1) :: if arg.2.isEmpty then [] else [arg.2]) ++ [r.target, r.endpoint],
      by simp, fun token => ?_⟩
    have hprotocol : (r.withToken token).protocol = .grpc := hp
    rw [Programs.args, hprotocol]
    dsimp only
    have hinsecure : (r.withToken token).insecure = r.insecure := rfl
    rw [Request.grpcurlArgs, hlines, hinsecure]
    simp [Request.withToken]

/-- The texts of a command line, before and after the token. -/
theorem commandLine_withToken (ps : Programs) (r : Request) :
    ∃ lead trail : List Char, ∀ token : String,
      (Shell.join (ps.commandLine (r.withToken token))).toList =
        lead ++ ' ' :: (Shell.protect token.toList ++ '\x27' :: ' ' :: trail) := by
  obtain ⟨before, after, hafter, hargs⟩ := args_withToken r
  obtain ⟨next, after, rfl⟩ := List.exists_cons_of_ne_nil hafter
  let words := (ps.program r.protocol :: before).map String.toList
  let more := after.map String.toList
  refine ⟨(words.map Shell.quoteWord).flatMap (· ++ [' ']) ++
      '\x27' :: "Authorization: Bearer".toList,
    Shell.quoteWord next.toList ++ (more.map Shell.quoteWord).flatMap ([' '] ++ ·),
    fun token => ?_⟩
  have hline : (ps.commandLine (r.withToken token)).map String.toList =
      words ++ ("Authorization: Bearer ".toList ++ token.toList) :: next.toList :: more := by
    rw [Programs.commandLine, hargs]
    simp [words, more, Request.withToken]
  -- The header has a blank of its own, so that it is quoted whatever the token is.
  have hword : Shell.quoteWord ("Authorization: Bearer ".toList ++ token.toList) =
      '\x27' :: ("Authorization: Bearer".toList ++ ' ' :: Shell.protect token.toList) ++ ['\x27'] := by
    rw [Shell.quoteWord_of_blank (by simp), Shell.protect_append]
    rfl
  rw [Shell.join, String.toList_ofList, hline, Shell.joinWords_append_cons, hword]
  simp

/-- **The line around the token does not depend on it.** In a command line the token is followed by
the closing quote and a blank. -/
theorem line_withToken (d : Description) (r : Request) :
    ∃ lead trail : List Char,
      (∀ token : String, (d.line (r.withToken token)).toList =
        lead ++ ' ' :: (d.shown r.protocol token.toList ++ trail)) ∧
      (d.isCommandLine r.protocol = true → ∃ more, trail = '\x27' :: ' ' :: more) := by
  have hcommand : ∀ ps : Programs, ∃ lead trail : List Char,
      (∀ token : String, (Shell.join (ps.commandLine (r.withToken token))).toList =
        lead ++ ' ' :: (Shell.protect token.toList ++ trail)) ∧
      ∃ more, trail = '\x27' :: ' ' :: more := by
    intro ps
    obtain ⟨lead, more, hline⟩ := commandLine_withToken ps r
    exact ⟨lead, _, hline, more, rfl⟩
  cases d with
  | command ps =>
    obtain ⟨lead, trail, hline, hmore⟩ := hcommand ps
    exact ⟨lead, trail, hline, fun _ => hmore⟩
  | http =>
    obtain ⟨lead, trail, hline⟩ := httpLine_withToken r
    exact ⟨lead, trail, hline, fun h => absurd h Bool.false_ne_true⟩
  | native ps =>
    cases hp : r.protocol with
    | http =>
      obtain ⟨lead, trail, hline⟩ := httpLine_withToken r
      refine ⟨lead, trail, fun token => ?_, fun h => absurd h Bool.false_ne_true⟩
      have hprotocol : (r.withToken token).protocol = .http := hp
      rw [line, hprotocol]
      exact hline token
    | grpc =>
      obtain ⟨lead, trail, hline, hmore⟩ := hcommand ps
      refine ⟨lead, trail, fun token => ?_, fun _ => hmore⟩
      have hprotocol : (r.withToken token).protocol = .grpc := hp
      rw [line, hprotocol]
      exact hline token

/-! ## Masking the token -/

/-- A token without blanks and stars that does not stand in the description by chance. -/
structure Foreign (d : Description) (r : Request) (token : String) : Prop where
  no_blank : ' ' ∉ token.toList
  no_star : '*' ∉ token.toList
  absent : ¬ token.toList <:+: (d.text (r.withToken Request.mask)).toList

/-- The description with the mask for a token is its line. -/
theorem toList_text_mask (d : Description) (r : Request) :
    (d.text (r.withToken Request.mask)).toList = (d.line (r.withToken Request.mask)).toList := by
  have hredact : (r.withToken Request.mask).redact (d.line (r.withToken Request.mask)) =
      String.ofList (Text.replace Request.mask.toList Request.mask.toList
        (d.line (r.withToken Request.mask)).toList) := rfl
  rw [text_eq_redact, hredact, Text.replace_self, String.toList_ofList]

/-- A text with the mask is not what a token with a quote is shown as once it has been masked. -/
theorem replace_shown_ne {token trail : List Char} (hblank : ' ' ∉ token) (hstar : '*' ∉ token)
    (hquote : '\x27' ∈ token) :
    Text.replace token Request.mask.toList (Shell.protect token ++ '\x27' :: ' ' :: trail) ≠
      Request.mask.toList ++ '\x27' :: ' ' :: trail := by
  intro h
  have hmask : Request.mask.toList = ['*', '*', '*'] := rfl
  have hne : token ≠ [] := List.ne_nil_of_mem hquote
  have hshown : ∀ c ∈ Shell.protect token, c ≠ ' ' ∧ c ≠ '*' := by
    intro c hc
    rcases Shell.mem_of_mem_protect hc with hc | hc
    · exact ⟨fun heq => hblank (heq ▸ hc), fun heq => hstar (heq ▸ hc)⟩
    · have hquoted : (Shell.protectedQuote.all fun c => c != ' ' && c != '*') = true := by decide
      simpa using List.all_eq_true.1 hquoted c hc
  have hlength := Shell.length_add_three_le_length_protect hquote
  -- The output begins with the mask, so the text begins with the token.
  have hlead : token <+: Shell.protect token := by
    obtain ⟨c, cs, hcs⟩ : ∃ c cs, Shell.protect token = c :: cs := by
      refine List.exists_cons_of_ne_nil fun hnil => ?_
      rw [hnil, List.length_nil] at hlength
      omega
    refine Decidable.byContradiction fun hnot => ?_
    have hkept : ¬ token <+: c :: (cs ++ '\x27' :: ' ' :: trail) := by
      intro hfound
      rw [← List.cons_append, ← hcs] at hfound
      refine hnot (List.prefix_of_prefix_length_le hfound (List.prefix_append _ _) ?_)
      omega
    rw [hcs, List.cons_append, Text.replace_cons_kept _ hkept, hmask] at h
    exact (hshown c (hcs ▸ List.mem_cons_self)).2 (List.cons.inj h).1
  obtain ⟨rest, hrest⟩ := hlead
  -- What is left of the shown token is more than one character, and none of them is a blank.
  have hmem : ∀ c ∈ rest, c ≠ ' ' :=
    fun c hc => (hshown c (hrest ▸ List.mem_append_right token hc)).1
  rw [← hrest, List.length_append] at hlength
  rw [← hrest, List.append_assoc, Text.replace_append_self hne] at h
  have hafter := List.append_cancel_left h
  match rest, hlength with
  | [], hlength => rw [List.length_nil] at hlength; omega
  | [x], hlength => rw [List.length_singleton] at hlength; omega
  | x :: y :: rest, _ =>
    have hmaskne : Request.mask.toList ≠ [] := by decide
    obtain ⟨-, hafter⟩ := Text.eq_of_replace_cons hne hmaskne (by decide) hafter
    obtain ⟨hy, -⟩ := Text.eq_of_replace_cons hne hmaskne (by decide) hafter
    exact hmem y (by simp) hy

/-- **What a description hides.** A token that does not stand in the description by chance is masked
without a trace, unless it has a quote and the description is a command line. -/
theorem text_withToken_eq_mask_iff {d : Description} {r : Request} {token : String}
    (h : Foreign d r token) :
    d.text (r.withToken token) = d.text (r.withToken Request.mask) ↔
      (d.isCommandLine r.protocol = true → '\x27' ∉ token.toList) := by
  obtain ⟨lead, trail, hline, hmore⟩ := line_withToken d r
  have hmaskShown : d.shown r.protocol Request.mask.toList = Request.mask.toList := by
    rw [shown]
    split
    · exact Shell.protect_of_not_mem (by decide)
    · rfl
  have hmask := toList_text_mask d r
  rw [hline, hmaskShown] at hmask
  -- The token is in none of the two texts around the mask.
  have habsent := h.absent
  rw [hmask] at habsent
  have hlead : ¬ token.toList <:+: lead :=
    fun hin => habsent (hin.trans (List.prefix_append _ _).isInfix)
  have htrail : ¬ token.toList <:+: trail :=
    fun hin => habsent (hin.trans ⟨lead ++ ' ' :: Request.mask.toList, [], by simp⟩)
  have hne : token.toList ≠ [] := by
    intro hnil
    rw [hnil] at hlead
    exact hlead List.nil_infix
  have htext : (d.text (r.withToken token)).toList = lead ++ ' ' ::
      Text.replace token.toList Request.mask.toList (d.shown r.protocol token.toList ++ trail) := by
    have hredact : (r.withToken token).redact (d.line (r.withToken token)) =
        String.ofList (Text.replace token.toList Request.mask.toList
          (d.line (r.withToken token)).toList) := rfl
    rw [text_eq_redact, hredact, String.toList_ofList, hline,
      Text.replace_append_cons h.no_blank hlead]
  rw [← String.toList_inj, htext, hmask, List.append_cancel_left_eq, List.cons.injEq,
    eq_self_iff_true, true_and]
  constructor
  · intro heq hcommand hquote
    obtain ⟨more, rfl⟩ := hmore hcommand
    rw [shown, if_pos hcommand] at heq
    exact replace_shown_ne h.no_blank h.no_star hquote heq
  · intro hquote
    have hshown : d.shown r.protocol token.toList = token.toList := by
      rw [shown]
      split
      · next hcommand => exact Shell.protect_of_not_mem (hquote hcommand)
      · rfl
    rw [hshown, Text.replace_append_self hne, Text.replace_of_not_infix htrail]

/-- **A description reveals nothing about the token that it hides.** Two tokens that do not stand in
the description by chance have the same description, the second without quotes where a command line
is shown. A first token with quotes differs there: quoted like a word, it is not found again. -/
theorem text_withToken_eq_iff {d : Description} {r : Request} {t₁ t₂ : String}
    (h₁ : Foreign d r t₁) (h₂ : Foreign d r t₂)
    (hquote : d.isCommandLine r.protocol = true → '\x27' ∉ t₂.toList) :
    d.text (r.withToken t₁) = d.text (r.withToken t₂) ↔
      (d.isCommandLine r.protocol = true → '\x27' ∉ t₁.toList) := by
  have hmasked := (text_withToken_eq_mask_iff h₂).2 hquote
  rw [hmasked]
  exact text_withToken_eq_mask_iff h₁

/-- A request over HTTP. -/
def plainRequest : Request where
  protocol := .http
  header := ""
  body := "\x7b\x7d"
  endpoint := "v1"
  target := "https://h/v1"
  token := none
  insecure := true
  args := []

theorem text_withToken_plainRequest :
    Foreign (command {}) plainRequest "sha256~a" ∧ Foreign (command {}) plainRequest "--b\"" ∧
      '\x27' ∉ "--b\"".toList ∧
      (command {}).text (plainRequest.withToken "sha256~a") =
        (command {}).text (plainRequest.withToken "--b\"") := by
  have h₁ : Foreign (command {}) plainRequest "sha256~a" :=
    ⟨by decide, by decide, by rw [toList_text_mask]; decide +kernel⟩
  have h₂ : Foreign (command {}) plainRequest "--b\"" :=
    ⟨by decide, by decide, by rw [toList_text_mask]; decide +kernel⟩
  have hquote : '\x27' ∉ "--b\"".toList := by decide
  exact ⟨h₁, h₂, hquote, (text_withToken_eq_iff h₁ h₂ fun _ => hquote).2 fun _ => by decide⟩

/-- A command line tells a token with a quote from others. -/
theorem text_withToken_ne_of_quote :
    Foreign (command {}) plainRequest "it's" ∧ Foreign (command {}) plainRequest "sha256~a" ∧
      (command {}).text (plainRequest.withToken "it's") ≠
        (command {}).text (plainRequest.withToken "sha256~a") := by
  have h₁ : Foreign (command {}) plainRequest "it's" :=
    ⟨by decide, by decide, by rw [toList_text_mask]; decide +kernel⟩
  have h₂ : Foreign (command {}) plainRequest "sha256~a" :=
    ⟨by decide, by decide, by rw [toList_text_mask]; decide +kernel⟩
  refine ⟨h₁, h₂, fun heq => ?_⟩
  have hmasked := (text_withToken_eq_mask_iff h₂).2 fun _ => by decide
  have hshown := (text_withToken_eq_mask_iff h₁).1 (heq.trans hmasked) rfl
  exact hshown (by decide)

end Description

end ModelProbe
