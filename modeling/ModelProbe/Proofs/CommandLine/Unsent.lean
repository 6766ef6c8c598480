import Mathlib
import ModelProbe.CommandLine.Run
import ModelProbe.Proofs.Client.Operations
/-!
# Nothing is sent in vain

Whatever can be found wrong with the arguments, the settings, the catalog or the default query is
found before anything is sent. After that, only a call or its answer can fail.

* `accounted_query`, `accounted_perform`: what goes wrong with a command.
* `unsent_of_misconfigured`: a failure that lies in no call has sent nothing.
-/

namespace ModelProbe.CommandLine

/-- What went wrong, if anything did, went wrong before anything was sent, or in a call. -/
def Result.Accounted (r : Result) : Prop :=
  ∀ report, r.trouble = some report →
    r.carried = [] ∨ ∃ f, report.failure = some f ∧ f.liesInCall = true

/-- A command that sends nothing is accounted for. -/
theorem Result.accounted_of_unsent {r : Result} (h : r.carried = []) : r.Accounted :=
  fun _ _ => .inl h

/-- A command with which nothing goes wrong is accounted for. -/
theorem Result.accounted_of_smooth {r : Result} (h : r.trouble = none) : r.Accounted := by
  intro report hreport
  rw [h] at hreport
  cases hreport

/-- A command that fails in a call is accounted for. -/
theorem Result.accounted_of_call {r : Result} {report : Report} {f : Failure}
    (h : r.trouble = some report) (hf : report.failure = some f) (hcall : f.liesInCall = true) :
    r.Accounted := by
  intro other hother
  obtain rfl : report = other := Option.some.inj (h.symm.trans hother)
  exact .inr ⟨f, hf, hcall⟩

/-! ## Queries -/

/-- A query that is sent several times is accounted for. -/
theorem accounted_queryRepeatedly (client : Client) (q : Query) (a : QueryArguments)
    (expected : Option Expectation) : (queryRepeatedly client q a expected).Accounted := by
  cases expected with
  | none => exact Result.accounted_of_unsent rfl
  | some expected =>
    unfold queryRepeatedly
    dsimp only
    split
    · exact Result.accounted_of_smooth rfl
    · next e carried he =>
      have hfails : (client.runRepeatedly expected q a.iterations a.atOnce []).1 = .error e := by
        rw [he]
      exact Result.accounted_of_call rfl rfl (Client.liesInCall_of_runRepeatedly hfails)

/-- A query that is sent once is accounted for. -/
theorem accounted_queryOnce (client : Client) (q : Query) (expected : Option Expectation) :
    (queryOnce client q expected).Accounted := by
  unfold queryOnce
  split
  · next e carried he =>
    have hfails : (client.run q []).1 = .error e := by rw [he]
    exact Result.accounted_of_call rfl rfl (Client.liesInCall_of_outcome hfails)
  · dsimp only
    split
    · exact Result.accounted_of_smooth rfl
    · split
      · exact Result.accounted_of_smooth rfl
      · next e he => exact Result.accounted_of_call rfl rfl (Answer.liesInCall_of_check he)

/-- **What goes wrong with a query.** Before it is sent, whatever its preparation finds; then,
only its calls. -/
theorem accounted_query (x : Context) (a : QueryArguments) : (query x a).Accounted := by
  unfold query
  split
  · exact Result.accounted_of_unsent rfl
  · split
    · exact accounted_queryRepeatedly _ _ _ _
    · exact accounted_queryOnce _ _ _

/-! ## Commands -/

/-- A text that is shown is shown without sending anything. -/
theorem carried_shown (text : Except Report String) : (shown text).carried = [] := by
  cases text <;> rfl

/-- Every command is accounted for. -/
theorem accounted_act (x : Context) (action : Action) : (act x action).Accounted := by
  cases action with
  | list runtime => exact Result.accounted_of_unsent (carried_shown _)
  | render r => exact Result.accounted_of_unsent (carried_shown _)
  | query a => exact accounted_query x a

/-- **What goes wrong with what the arguments ask for**: before anything is sent, the settings, the
catalog or whatever a command's preparation finds; then, only calls. -/
theorem accounted_perform {ws : Workspace} {world : World} {args : List String} {r : Result}
    (h : perform ws world args = .ok r) : r.Accounted := by
  unfold perform at h
  split at h
  · cases h
  · split at h
    · obtain rfl := Except.ok.inj h
      exact Result.accounted_of_unsent rfl
    · obtain rfl := Except.ok.inj h
      exact accounted_act _ _

/-- **A failure that lies in no call has sent nothing.** An operation of a client that fails because
of the configuration leaves the requests as they were; and when something goes wrong with a command
that is neither the failure of a call nor that of an answer, nothing was sent. Both hold whatever
comes of the programs and over the network. -/
theorem unsent_of_misconfigured :
    (∀ (c : Client) (carried : Carried) (op : Client.Operation) (f : Failure),
      (c.perform carried op).1 = .error f → f.isConfiguration = true →
        (c.perform carried op).2 = carried) ∧
    ∀ (ws : Workspace) (world : World) (args : List String) (r : Result) (report : Report),
      perform ws world args = .ok r → r.trouble = some report →
        (∀ f, report.failure = some f → f.liesInCall = false) → r.carried = [] := by
  constructor
  · intro c carried op f hfails hconfiguration
    rcases Client.perform_eq_error hfails with ⟨-, hunsent⟩ | hcall
    · exact hunsent
    · rw [Failure.isConfiguration_of_liesInCall hcall] at hconfiguration
      cases hconfiguration
  · intro ws world args r report hr hreport hnocall
    rcases accounted_perform hr report hreport with hunsent | ⟨f, hf, hcall⟩
    · exact hunsent
    · rw [hnocall f hf] at hcall
      cases hcall

/-- The arguments of a query at a service whose status cannot be read. -/
def unreadableStatusQuery : List String :=
  ["query", "--runtime", "vllm-runtime", "--inference-type", "completions", "--protocol", "http",
    "--model", "granite", "--status-file", "isvc.json", "--text", "hi"]

/-- What is said about a status that cannot be read. -/
def unreadableStatusReport : Report :=
  { message := "failed to read isvc.json", causes := ["No such file or directory (os error 2)"] }

theorem perform_unreadableStatusQuery :
    perform {} {} unreadableStatusQuery =
      .ok { trouble := some unreadableStatusReport } := by
  decide +kernel

/-- Without a default query the requests stay as they were, and a status that cannot be read is
found before anything is sent. -/
theorem unsent_of_misconfigured_unreadableStatus :
    ((default : Client).perform [default] (.runDefault default)).1 =
        .error (.invalidCatalog (.noDefaultQuery "")) ∧
      ((default : Client).perform [default] (.runDefault default)).2 = [default] ∧
      ∃ r, perform {} {} unreadableStatusQuery = .ok r ∧
        r.trouble = some unreadableStatusReport ∧ r.carried = [] := by
  obtain ⟨hoperation, hcommand⟩ := unsent_of_misconfigured
  have hfails : ((default : Client).perform [default] (.runDefault default)).1 =
      .error (.invalidCatalog (.noDefaultQuery "")) := rfl
  have hnone : ∀ f, unreadableStatusReport.failure = some f → f.liesInCall = false := by
    intro f hf
    cases hf
  exact ⟨hfails, hoperation default [default] _ _ hfails rfl, _, perform_unreadableStatusQuery, rfl,
    hcommand _ _ _ _ _ perform_unreadableStatusQuery rfl hnone⟩

end ModelProbe.CommandLine
