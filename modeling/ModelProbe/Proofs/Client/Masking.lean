import ModelProbe.Client
import ModelProbe.Proofs.Request.Description
import ModelProbe.Transport.Program
/-!
# What is said of failed calls

A call fails because it takes too long, because it could not begin, or because the transport
reports a failure. In each case the failure is made of the same three texts, the description of
the request and what was observed, and each of them is masked.

* `outcome_eq_error_iff`: the three ways in which a call fails.
* `execute_error_masked`: no text of a failed call has the token.
-/

namespace ModelProbe

/-! ## Masked texts -/

/-- In a masked text the token occurs nowhere. -/
theorem Request.not_infix_redact {r : Request} {token : String} (htoken : r.token = some token)
    (hne : token ≠ "") (hstar : '*' ∉ token.toList) (s : String) :
    ¬ token.toList <:+: (r.redact s).toList := by
  have hlist : token.toList ≠ [] := fun hnil => hne (String.toList_eq_nil_iff.1 hnil)
  -- The mask is made of stars, so that no occurrence of the token can reach into it.
  have hapart : ∀ c ∈ token.toList, c ∉ mask.toList := by
    intro c hc hmask
    have hmem : c ∈ ['*', '*', '*'] := hmask
    have hc' : c = '*' := by simpa using hmem
    exact hstar (hc' ▸ hc)
  rw [redact, htoken]
  dsimp only
  rw [String.toList_ofList]
  exact Text.not_infix_replace hlist (by decide) hapart s.toList

/-- The descriptions of the transports are those that descriptions are defined by. -/
theorem Transport.describe_eq_text (ws : Workspace) (launch : Launcher) (network : Network)
    (ps : Programs) :
    (command launch ps).describe = (Description.command ps).text ∧
      (http ws network).describe = Description.http.text ∧
      (native ws launch network ps).describe = (Description.native ps).text :=
  ⟨rfl, rfl, rfl⟩

namespace Client

/-! ## Failed calls -/

/-- What is observed of a call that fails: what it wrote to its output and what is said of it. -/
inductive Observed (c : Client) (reply : Reply) : (stdout stderr : String) → Prop
  /-- The reply comes after the timeout. -/
  | late (late : c.timeout.milliseconds < reply.after.milliseconds) :
      Observed c reply "" ("timed out after " ++ c.timeout.text)
  /-- The request was not attempted. -/
  | fault {fault : TransportFault}
      (inTime : ¬ c.timeout.milliseconds < reply.after.milliseconds)
      (outcome : reply.outcome = .error fault) : Observed c reply "" fault.message
  /-- The transport reports a failure. -/
  | failure {out : Output} (inTime : ¬ c.timeout.milliseconds < reply.after.milliseconds)
      (outcome : reply.outcome = .ok out) (failed : out.success = false) :
      Observed c reply out.stdout out.stderr

/-- A call fails exactly in these ways, with what was observed of it. -/
theorem outcome_eq_error_iff {c : Client} {r : Request} {reply : Reply} {f : Failure} :
    c.outcome r reply = .error f ↔
      ∃ stdout stderr, Observed c reply stdout stderr ∧ f = c.failed r stdout stderr := by
  constructor
  · intro h
    unfold outcome at h
    split at h
    · next late => exact ⟨_, _, .late late, (Except.error.inj h).symm⟩
    · next inTime =>
      split at h
      · next fault houtcome => exact ⟨_, _, .fault inTime houtcome, (Except.error.inj h).symm⟩
      · next out houtcome =>
        split at h
        · cases h
        · next hfailed =>
          have hfailed : out.success = false := Bool.eq_false_iff.2 hfailed
          exact ⟨_, _, .failure inTime houtcome hfailed, (Except.error.inj h).symm⟩
  · rintro ⟨stdout, stderr, hobserved, rfl⟩
    cases hobserved with
    | late late => rw [outcome, if_pos late]
    | fault inTime houtcome => rw [outcome, if_neg inTime, houtcome]
    | failure inTime houtcome hfailed => rw [outcome, if_neg inTime, houtcome]; simp [hfailed]

/-- **No failure of a call tells the token.** Whatever the transport replies, a failed call is
described by the masked command line and by what was observed, masked as well; and masked texts
do not have the token, however often and however entangled it stood there. -/
theorem execute_error_masked (c : Client) (d : Description) (r : Request) (token : String)
    (hdescribe : c.transport.describe = d.text) (htoken : r.token = some token)
    (hne : token ≠ "") (hstar : '*' ∉ token.toList) (carried : Carried) (f : Failure)
    (h : (c.execute r carried).1 = .error f) :
    ∃ stdout stderr, Observed c (c.transport.reply carried.length r) stdout stderr ∧
      f = .execution (d.text r) (r.redact stdout) (r.redact stderr) ∧
      ¬ token.toList <:+: (d.text r).toList ∧
      ¬ token.toList <:+: (r.redact stdout).toList ∧
      ¬ token.toList <:+: (r.redact stderr).toList := by
  obtain ⟨stdout, stderr, hobserved, rfl⟩ := outcome_eq_error_iff.1 h
  have hmasked := Request.not_infix_redact htoken hne hstar
  refine ⟨stdout, stderr, hobserved, ?_, ?_, hmasked stdout, hmasked stderr⟩
  · rw [failed, hdescribe]
  · rw [d.text_eq_redact]
    exact hmasked _

/-- A client of a program that fails and repeats a token which overlaps itself. -/
def repeatingClient : Client :=
  { (default : Client) with
    transport := .scripted "" (Description.command {}).text [
      ⟨⟨0⟩, .ok { success := false, stdout := "aba", stderr := "ababa for abaaba" }⟩] }

theorem execute_error_repeatingClient :
    repeatingClient.transport.describe = (Description.command {}).text ∧
      ∃ command stdout stderr,
        (repeatingClient.execute (Description.plainRequest.withToken "aba") []).1 =
            .error (.execution command stdout stderr) ∧
          ¬ "aba".toList <:+: command.toList ∧ ¬ "aba".toList <:+: stdout.toList ∧
            ¬ "aba".toList <:+: stderr.toList := by
  have hdescribe : repeatingClient.transport.describe = (Description.command {}).text := rfl
  have herror : (repeatingClient.execute (Description.plainRequest.withToken "aba") []).1 =
      .error (repeatingClient.failed (Description.plainRequest.withToken "aba") "aba"
        "ababa for abaaba") := rfl
  obtain ⟨stdout, stderr, -, hf, hcommand, hstdout, hstderr⟩ :=
    execute_error_masked repeatingClient (.command {}) (Description.plainRequest.withToken "aba")
      "aba" hdescribe rfl (by decide) (by decide) [] _ herror
  exact ⟨hdescribe, _, _, _, by rw [herror, hf], hcommand, hstdout, hstderr⟩

end Client

end ModelProbe
