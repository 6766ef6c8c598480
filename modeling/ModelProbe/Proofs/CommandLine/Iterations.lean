import Mathlib
import ModelProbe.CommandLine.Run
import ModelProbe.Proofs.Client.Account
import ModelProbe.Proofs.Text.Digits
/-!
# How often a query is sent

The command line sends a query as often as it is asked to, and once when it is asked to send it not
at all, unless all calls are to be made at once.

* `iterations_of_ofList`: what `--iterations` says is how often the query is to be sent.
* `queryOnce_of_passes`, `queryRepeatedly_of_passes`: the two ways of sending.
* `run_iterations`: how many requests are carried when all answers are as expected.
-/

namespace ModelProbe.CommandLine

/-! ## The option -/

/-- An option that was given stays given, with its value. -/
theorem lookup_of_addOption {given given' : Given} {name other : String}
    {value v : Option String} (h : addOption given other v = .ok given')
    (hgiven : given.lookup name = some value) : given'.lookup name = some value := by
  unfold addOption at h
  split at h
  · cases h
  · next hnew =>
    obtain rfl := Except.ok.inj h
    rw [List.lookup_cons]
    have hne : (name == other) = false := by
      rw [beq_eq_false_iff_ne]
      rintro rfl
      exact hnew (by rw [hgiven]; rfl)
    rw [hne]
    exact hgiven

/-- What comes of two steps comes of the first and then of the second. -/
theorem exists_of_bind_eq_ok {ε α β : Type} {x : Except ε α} {f : α → Except ε β} {b : β}
    (h : x >>= f = .ok b) : ∃ a, x = .ok a ∧ f a = .ok b := by
  cases x with
  | error e => cases h
  | ok a => exact ⟨a, rfl, h⟩

/-- Options that were given stay given while more options are read. -/
theorem lookup_of_readOptions {table : OptionTable} {given given' : Given} {args rest : List String}
    {name : String} {value : Option String} (h : readOptions table given args = .ok (given', rest))
    (hgiven : given.lookup name = some value) : given'.lookup name = some value := by
  fun_induction readOptions table given args with
  | case1 | case3 | case5 =>
    obtain ⟨rfl, -⟩ := Prod.mk.inj (Except.ok.inj h)
    exact hgiven
  | case6 _ _ _ _ _ _ _ _ _ ih =>
    obtain ⟨more, hadd, hmore⟩ := exists_of_bind_eq_ok h
    exact ih more hmore (lookup_of_addOption hadd hgiven)
  | case7 _ _ _ _ _ _ _ _ _ _ _ _ ih =>
    obtain ⟨more, hadd, hmore⟩ := exists_of_bind_eq_ok h
    exact ih more hmore (lookup_of_addOption hadd hgiven)
  | case9 _ _ _ _ _ _ _ _ _ _ _ _ ih =>
    obtain ⟨more, hadd, hmore⟩ := exists_of_bind_eq_ok h
    exact ih more hmore (lookup_of_addOption hadd hgiven)
  | _ => cases h

/-- The options that a query takes. -/
def queryTable : OptionTable := globalOptions ++ (requestOptions ++ queryOptions)

/-- The arguments of a query are read from its options. -/
theorem exists_given_of_ofList {args : List String} {path : Option String} {a : QueryArguments}
    (h : Arguments.ofList ("query" :: args) = .ok { settingsPath := path, action := .query a }) :
    ∃ given, readOptions queryTable [] args = .ok (given, []) ∧ queryOf? given = some a := by
  have hcommand : readOptions globalOptions [] ("query" :: args) = .ok ([], "query" :: args) := by
    rw [readOptions, if_neg (by decide +kernel), if_neg (by decide), if_pos (by decide +kernel)]
  obtain ⟨before, hbefore, h⟩ := exists_of_bind_eq_ok h
  rw [hcommand] at hbefore
  obtain rfl := Except.ok.inj hbefore
  obtain ⟨⟨given, extra⟩, hgiven, h⟩ := exists_of_bind_eq_ok h
  dsimp only at h
  split at h
  · cases h
  · next hextra =>
    obtain rfl : extra = [] := by simpa using hextra
    refine ⟨given, hgiven, ?_⟩
    cases hquery : queryOf? given with
    | none =>
      have hnone : actionOf? "query" given = none := by rw [actionOf?, hquery, Option.map_none]
      rw [hnone] at h
      cases h
    | some asked =>
      have haction : actionOf? "query" given = some (.query asked) := by
        rw [actionOf?, hquery, Option.map_some]
      rw [haction] at h
      exact congrArg some (Action.query.inj (Arguments.mk.inj (Except.ok.inj h)).2)

/-- How often a query is to be sent: what its option says, or once. -/
theorem iterations_of_queryOf? {given : Given} {a : QueryArguments} (h : queryOf? given = some a) :
    a.iterations = ((given.value? "iterations").bind readCount?).getD 1 := by
  obtain ⟨request, -, h⟩ := Option.bind_eq_some_iff.1 h
  obtain ⟨expected, -, h⟩ := Option.bind_eq_some_iff.1 h
  obtain rfl := Option.some.inj h
  rfl

/-- A number is read from its digits or not at all. -/
theorem eq_of_readCount? {n m : Nat} (h : readCount? (toString n) = some m) : m = n := by
  rw [readCount?, Text.toList_toString, Text.readBelow?_toDigits] at h
  exact (Option.some.inj (Option.ite_none_right_eq_some.1 h).2).symm

/-- **What `--iterations` says** is how often the query is to be sent. -/
theorem iterations_of_ofList {n : Nat} {rest : List String} {path : Option String}
    {a : QueryArguments}
    (h : Arguments.ofList ("query" :: "--iterations" :: toString n :: rest) =
      .ok { settingsPath := path, action := .query a }) : a.iterations = n := by
  obtain ⟨given, hgiven, ha⟩ := exists_given_of_ofList h
  have hoption : splitOption? "--iterations" = some ("iterations", none) := by decide +kernel
  have hknown : queryTable.lookup "iterations" =
      some (.value fun s => (readCount? s).isSome) := rfl
  rw [readOptions, if_neg (by decide +kernel), if_neg (by decide), if_neg (by decide +kernel),
    hoption] at hgiven
  dsimp only at hgiven
  rw [hknown] at hgiven
  dsimp only at hgiven
  split at hgiven
  · next hfits =>
    have hlater : given.lookup "iterations" = some (some (toString n)) :=
      lookup_of_readOptions hgiven List.lookup_cons_self
    -- The text was accepted, so it is that of a number of 64 bits.
    rw [Bool.and_eq_true] at hfits
    obtain ⟨m, hm⟩ := Option.isSome_iff_exists.1 hfits.1
    obtain rfl : m = n := eq_of_readCount? hm
    rw [iterations_of_queryOf? ha, Given.value?, hlater]
    show ((readCount? (toString m)).getD 1) = m
    rw [hm, Option.getD_some]
  · cases hgiven

/-! ## Sending -/

section Sending

variable {client : Client} {q : Query} {expected : Expectation}

/-- A query that is sent once and answered as expected goes well, with one request. -/
theorem queryOnce_of_passes {answer : Answer}
    (h : client.Passes expected q (client.replyAfter q 0) answer) :
    (queryOnce client q (some expected)).trouble = none ∧
      (queryOnce client q (some expected)).carried = [client.request q] := by
  have hread : client.outcome (client.request q) (client.replyAfter q 0) = .ok answer :=
    Client.outcome_eq_ok_iff.2 ⟨h.inTime, h.read⟩
  have hrun : client.run q [] = (.ok answer, [client.request q]) := by
    show (client.outcome (client.request q) (client.replyAfter q 0), _) = _
    rw [hread]
    rfl
  unfold queryOnce
  rw [hrun]
  dsimp only
  rw [h.accepted]
  exact ⟨rfl, rfl⟩

/-- A query that is sent several times and always answered as expected goes well, with a request
for each time. -/
theorem queryRepeatedly_of_passes {a : QueryArguments}
    (h : ∀ i < a.iterations, ∃ answer, client.Passes expected q (client.replyAfter q i) answer) :
    (queryRepeatedly client q a (some expected)).trouble = none ∧
      (queryRepeatedly client q a (some expected)).carried =
        List.replicate a.iterations (client.request q) := by
  have hpass : ∀ i < a.iterations, ∃ answer,
      client.Passes expected q (client.replyAfter q (([] : Carried).length + i)) answer := by
    intro i hi
    rw [List.length_nil, Nat.zero_add]
    exact h i hi
  obtain ⟨as, -, hruns⟩ := Client.runRepeatedly_of_passes hpass a.atOnce
  rw [List.nil_append] at hruns
  unfold queryRepeatedly
  dsimp only
  rw [hruns]
  exact ⟨rfl, rfl⟩

/-- **How many requests a query carries** when all answers are as expected: as many as it should,
but one when it should carry none and its calls are not made at once. -/
theorem query_of_passes {x : Context} {a : QueryArguments}
    (hprepare : prepare x a = .ok (client, q, some expected))
    (hanswers : ∀ i < max 1 a.iterations,
      ∃ answer, client.Passes expected q (client.replyAfter q i) answer) :
    (query x a).trouble = none ∧
      (a.iterations ≠ 0 ∨ a.atOnce = true →
        (query x a).carried = List.replicate a.iterations (client.request q)) ∧
      (a.iterations = 0 → a.atOnce = false → (query x a).carried = [client.request q]) := by
  obtain ⟨answer, hfirst⟩ := hanswers 0 (by omega)
  obtain ⟨honceTrouble, honceCarried⟩ := queryOnce_of_passes hfirst
  have hquery : query x a =
      if 1 < a.iterations || a.atOnce then queryRepeatedly client q a (some expected)
      else queryOnce client q (some expected) := by rw [query, hprepare]
  by_cases hrepeated : (1 < a.iterations || a.atOnce) = true
  · obtain ⟨htrouble, hcarried⟩ := queryRepeatedly_of_passes (a := a) fun i hi =>
      hanswers i (by omega)
    rw [hquery, if_pos hrepeated]
    refine ⟨htrouble, fun _ => hcarried, fun hzero hturn => ?_⟩
    -- A query that is repeated is sent at once or more than one time.
    rw [hzero, hturn] at hrepeated
    cases hrepeated
  · rw [hquery, if_neg hrepeated]
    refine ⟨honceTrouble, fun hsome => ?_, fun _ _ => honceCarried⟩
    have hcount : a.iterations = 1 := by
      simp only [Bool.or_eq_true, decide_eq_true_eq, not_or] at hrepeated
      obtain ⟨hfew, hturn⟩ := hrepeated
      have hpositive : a.iterations ≠ 0 := hsome.resolve_right hturn
      omega
    rw [honceCarried, hcount]
    rfl

end Sending

/-! ## Runs -/

/-- What comes of the arguments of a query is what comes of the query. -/
theorem perform_query {ws : Workspace} {world : World} {args : List String}
    {path : Option String} {a : QueryArguments} {x : Context}
    (hargs : Arguments.ofList args = .ok { settingsPath := path, action := .query a })
    (hcontext : contextOf ws world path = .ok x) : perform ws world args = .ok (query x a) := by
  rw [perform, hargs]
  dsimp only
  rw [hcontext]
  rfl

/-- **How often the command line sends a query.** When something is expected and all answers are as
expected, the run succeeds. It has sent the query's request exactly as often as `--iterations`
says, in turn or at once; only when no calls should be made, in turn, it has sent it once. This
holds whatever the programs and the network do, which may depend on how many requests were carried
before. -/
theorem run_iterations {ws : Workspace} {world : World} {args : List String}
    {path : Option String} {a : QueryArguments} {x : Context} {client : Client} {q : Query}
    {expected : Expectation}
    (hargs : Arguments.ofList args = .ok { settingsPath := path, action := .query a })
    (hcontext : contextOf ws world path = .ok x)
    (hprepare : prepare x a = .ok (client, q, some expected))
    (hanswers : ∀ i < max 1 a.iterations,
      ∃ answer, client.Passes expected q (client.replyAfter q i) answer) :
    ∃ r, perform ws world args = .ok r ∧ (run ws world args).status = 0 ∧
      (a.iterations ≠ 0 ∨ a.atOnce = true →
        r.carried = List.replicate a.iterations (client.request q)) ∧
      (a.iterations = 0 → a.atOnce = false → r.carried = [client.request q]) := by
  obtain ⟨htrouble, hcarried⟩ := query_of_passes hprepare hanswers
  have hperform := perform_query hargs hcontext
  have hstatus : (run ws world args).status = 0 := by
    rw [run, hperform]
    show (query x a).outcome.status = 0
    rw [Result.outcome, htrouble]
  exact ⟨query x a, hperform, hstatus, hcarried⟩

/-! ## A service that turns all calls away -/

/-- What a service says that turns a call away: the first call in another way than later ones. -/
def denialText (count : Nat) : String :=
  if count = 0 then "HTTP/1.1 401 Unauthorized\nx-ext-auth-reason: credential not found\n\n"
  else "HTTP/2 401\nX-Ext-Auth-Reason: Credential not found\n\nnot again"

/-- A world in which `curl` reaches that service. -/
def denyingWorld : World where
  launch := fun count program _ =>
    if program = "curl" then .ok { outcome := .ok { stdout := denialText count } }
    else .error PathFault.absent.message

/-- What a run in that world depends on where there are no files. -/
def denyingContext : Context :=
  { denyingWorld with workspace := {}, settings := {}, catalog := .builtin }

/-- A query that should be turned away, to be sent so often. -/
def deniedQuery (n : Nat) : QueryArguments where
  request := {
    runtime := "vllm-runtime"
    inferenceType := "completions"
    protocol := .http
    model := "granite"
    service := .address "h"
    question := .text "hi" }
  expected := .denied
  iterations := n

/-- The words of that query. -/
def deniedWords (n : Nat) : List String :=
  ["query", "--iterations", toString n, "--runtime", "vllm-runtime", "--inference-type",
    "completions", "--protocol", "http", "--model", "granite", "--url", "h", "--text", "hi",
    "--unauthorized"]

/-- The client for that query. -/
def deniedClient : Client where
  runtime := "vllm-runtime"
  inferenceType := "completions"
  protocol := .http
  entry := {
    endpoint := "v1/completions"
    header := jsonHeader
    body := "\x7b\"model\": \"$model_name\",\"prompt\": \"$query_text\"\x7d"
    fields := .ofList [
      ("completion_tokens", "completion_tokens"),
      ("response", "choices"),
      ("response_text", "text")] }
  defaultQuery := none
  target := { host := "h" }
  transport := .command denyingWorld.launch {}

/-- What that client asks. -/
def politeQuery : Query := { model := "granite", text := "hi" }

/-- The arguments that `curl` is given for it. -/
def politeArgs : List String :=
  ["-i", "-s", "-d", "\x7b\"model\": \"granite\",\"prompt\": \"hi\"\x7d", "-H",
    "Content-Type:application/json", "https://h/v1/completions"]

theorem contextOf_denyingWorld : contextOf {} denyingWorld none = .ok denyingContext := by
  have hsettings : Settings.load {} = .ok {} := by decide +kernel
  unfold contextOf
  show ((Settings.load {}).mapError _ >>= _) = _
  rw [hsettings]
  rfl

theorem prepare_deniedQuery (n : Nat) :
    prepare denyingContext (deniedQuery n) = .ok (deniedClient, politeQuery, some .denied) := by
  have hhost : hostOf {} (.address "h") = .ok "h" := by decide +kernel
  have hentry : Catalog.builtin.resolve "vllm-runtime" "completions" .http =
      .ok deniedClient.entry := by decide +kernel
  have hruntime : Catalog.builtin.runtime "vllm-runtime" = .ok vllmRuntime := by decide +kernel
  have hclient : clientOf denyingContext (deniedQuery n).request = .ok deniedClient := by
    unfold clientOf
    dsimp only [denyingContext, deniedQuery]
    rw [hhost]
    show ((Client.ofCatalog .builtin "vllm-runtime" "completions" .http { host := "h" }
      (.command denyingWorld.launch {})).mapError Report.ofFailure >>= _) = _
    unfold Client.ofCatalog
    rw [hentry, hruntime]
    rfl
  unfold prepare queryOf
  show ((clientOf denyingContext (deniedQuery n).request >>= _) >>= _) = _
  rw [hclient]
  rfl

/-- The reply to that query is what the service says at that time. -/
theorem replyAfter_politeQuery (i : Nat) :
    deniedClient.replyAfter politeQuery i = { outcome := .ok { stdout := denialText i } } := by
  have hargs : Programs.args (deniedClient.request politeQuery) = politeArgs := by decide +kernel
  have hprogram : Programs.program {} (deniedClient.request politeQuery).protocol = "curl" := rfl
  have hclean : (("curl" :: politeArgs).any fun s => s.toList.contains '\x00') = false := by
    decide +kernel
  show Transport.programReply denyingWorld.launch {} i (deniedClient.request politeQuery) = _
  simp only [Transport.programReply, hprogram, hargs, hclean]
  rfl

/-- Every answer to that query is the denial that it asks for. -/
theorem passes_politeQuery (i : Nat) :
    ∃ answer,
      deniedClient.Passes .denied politeQuery (deniedClient.replyAfter politeQuery i) answer := by
  have htime : ¬ deniedClient.timeout.milliseconds < 0 := Nat.not_lt_zero _
  have hdenied : ∀ n, Answer.checkDenied none (Answer.ofText (denialText n)) = .ok () := by
    rintro (_ | n)
    · decide +kernel
    · show Answer.checkDenied none (Answer.ofText (denialText 1)) = .ok ()
      decide +kernel
  rw [replyAfter_politeQuery]
  exact ⟨_, htime, ⟨_, rfl, rfl, rfl⟩, hdenied i⟩

/-- Asked to send the query twice, the command line sends it twice. -/
theorem run_iterations_deniedQuery :
    Arguments.ofList (deniedWords 2) =
        .ok { settingsPath := none, action := .query (deniedQuery 2) } ∧
      denialText 0 ≠ denialText 1 ∧
      (run {} denyingWorld (deniedWords 2)).status = 0 ∧
      ∃ r, perform {} denyingWorld (deniedWords 2) = .ok r ∧
        r.carried = List.replicate 2 (deniedClient.request politeQuery) := by
  have hargs : Arguments.ofList (deniedWords 2) =
      .ok { settingsPath := none, action := .query (deniedQuery 2) } := by decide +kernel
  obtain ⟨r, hperform, hstatus, hcarried, -⟩ := run_iterations hargs contextOf_denyingWorld
    (prepare_deniedQuery 2) fun i _ => passes_politeQuery i
  exact ⟨hargs, by decide +kernel, hstatus, r, hperform, hcarried (.inl (by decide))⟩

/-- Asked to send the query not at all, the command line sends it once, although something is
expected and every answer is as expected. -/
theorem not_run_iterations_zero :
    Arguments.ofList (deniedWords 0) =
        .ok { settingsPath := none, action := .query (deniedQuery 0) } ∧
      (deniedQuery 0).iterations = 0 ∧
      contextOf {} denyingWorld none = .ok denyingContext ∧
      prepare denyingContext (deniedQuery 0) = .ok (deniedClient, politeQuery, some .denied) ∧
      (∀ i, ∃ answer,
        deniedClient.Passes .denied politeQuery (deniedClient.replyAfter politeQuery i) answer) ∧
      ∃ r, perform {} denyingWorld (deniedWords 0) = .ok r ∧ r.carried.length ≠ 0 := by
  have hargs : Arguments.ofList (deniedWords 0) =
      .ok { settingsPath := none, action := .query (deniedQuery 0) } := by decide +kernel
  have hperform := perform_query hargs contextOf_denyingWorld
  obtain ⟨-, -, honce⟩ := query_of_passes (prepare_deniedQuery 0) fun i _ => passes_politeQuery i
  have hcarried : (query denyingContext (deniedQuery 0)).carried =
      [deniedClient.request politeQuery] := honce rfl rfl
  refine ⟨hargs, rfl, contextOf_denyingWorld, prepare_deniedQuery 0, passes_politeQuery, _,
    hperform, ?_⟩
  rw [hcarried]
  exact Nat.one_ne_zero

end ModelProbe.CommandLine
