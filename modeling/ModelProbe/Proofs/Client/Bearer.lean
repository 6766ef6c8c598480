import ModelProbe.CommandLine.Run
/-!
# The token that counts

An empty token is none. What a client sends, what comes of it and which denials it accepts depend
on a query's token only as far as it counts, so an empty token may be left out everywhere.

* `request_congr`, `checkDenied_congr`: the two places in which a token is looked at.
* `runInTurn_congr`, `runAtOnce_congr`: repeated calls, step by step.
* `emptyToken_eq_none`: whatever is done with an empty token is done without a token.
* `query_emptyToken`, `render_emptyToken`: and so it is on the command line.
-/

namespace ModelProbe

/-- The token that counts: an empty one is none. -/
def bearer? (token : Option String) : Option String := token.filter fun t => !t.isEmpty

/-- Two queries ask for the same, with tokens that count alike. -/
structure Query.Alike (q q' : Query) : Prop where
  model : q.model = q'.model
  text : q.text = q'.text
  bearer : bearer? q.token = bearer? q'.token
  insecure : q.insecure = q'.insecure

/-- A query with an empty token asks for the same as without a token. -/
theorem Query.alike_empty (q : Query) :
    ({ q with token := some "" } : Query).Alike { q with token := none } :=
  ⟨rfl, rfl, rfl, rfl⟩

/-- Like queries make the same request. -/
theorem Entry.request_congr (e : Entry) (protocol : Protocol) (target : Target) {q q' : Query}
    (h : q.Alike q') : e.request protocol target q = e.request protocol target q' := by
  have htoken : (q.token.filter fun t => !t.isEmpty) = q'.token.filter fun t => !t.isEmpty :=
    h.bearer
  simp only [request, h.model, h.text, htoken, h.insecure]

/-! ## Checks -/

/-- There is a token that counts when there is a token that is not empty. -/
theorem isSome_bearer? (token : Option String) :
    (bearer? token).isSome = token.any fun t => !t.isEmpty := by
  cases token with
  | none => rfl
  | some t =>
    rw [bearer?, Option.filter_some, Option.any_some]
    cases !t.isEmpty <;> rfl

/-- Which denial is right depends on the token that counts. -/
theorem Answer.checkDenied_congr (a : Answer) {token token' : Option String}
    (h : bearer? token = bearer? token') : a.checkDenied token = a.checkDenied token' := by
  have hcounts : (token.any fun t => !t.isEmpty) = token'.any fun t => !t.isEmpty := by
    rw [← isSome_bearer?, ← isSome_bearer?, h]
  simp only [checkDenied, hcounts]

/-- A check depends on the token that counts. -/
theorem Answer.check_congr (entry : Entry) (expected : Expectation) (a : Answer)
    {token token' : Option String} (h : bearer? token = bearer? token') :
    a.check entry expected token = a.check entry expected token' := by
  cases expected with
  | denied => exact a.checkDenied_congr h
  | text t => rfl
  | pattern p => rfl

namespace Client

variable {q q' : Query}

/-! ## Calls -/

/-- Like queries have the same request of a client. -/
theorem request_congr (c : Client) (h : q.Alike q') : c.request q = c.request q' :=
  c.entry.request_congr c.protocol c.target h

/-- Like queries are sent alike. -/
theorem run_congr (c : Client) (h : q.Alike q') (carried : Carried) :
    c.run q carried = c.run q' carried := by
  rw [run, run, c.request_congr h]

/-- Calls of like queries come out alike. -/
theorem checkedOutcome_congr (c : Client) (expected : Expectation) (h : q.Alike q')
    (reply : Reply) : c.checkedOutcome expected q reply = c.checkedOutcome expected q' reply := by
  have hcheck : ∀ a, c.check expected q.token a = c.check expected q'.token a := fun a =>
    a.check_congr c.entry expected h.bearer
  simp only [checkedOutcome, c.request_congr h, hcheck]

/-- Like queries get the same replies. -/
theorem replyAfter_congr (c : Client) (h : q.Alike q') (count : Nat) :
    c.replyAfter q count = c.replyAfter q' count := by
  rw [replyAfter, replyAfter, c.request_congr h]

/-! ## Repeated calls -/

/-- Like queries that are sent in turn come out alike, with the same requests. -/
theorem runInTurn_congr (c : Client) (expected : Expectation) (h : q.Alike q') (n : Nat) :
    ∀ carried : Carried, c.runInTurn expected q n carried = c.runInTurn expected q' n carried := by
  induction n with
  | zero => intro carried; rfl
  | succ n ih =>
    intro carried
    rw [runInTurn, runInTurn, c.request_congr h, c.replyAfter_congr h,
      c.checkedOutcome_congr expected h, ih]

/-- Like queries that are sent at once come out alike, with the same requests. -/
theorem runAtOnce_congr (c : Client) (expected : Expectation) (h : q.Alike q') (n : Nat)
    (carried : Carried) :
    c.runAtOnce expected q n carried = c.runAtOnce expected q' n carried := by
  have hcalls : c.callsAtOnce expected q n carried = c.callsAtOnce expected q' n carried := by
    simp only [callsAtOnce, c.request_congr h, c.replyAfter_congr h,
      c.checkedOutcome_congr expected h]
  rw [runAtOnce, runAtOnce, hcalls]

/-- Like queries that are sent several times come out alike, with the same requests. -/
theorem runRepeatedly_congr (c : Client) (expected : Expectation) (h : q.Alike q') (n : Nat)
    (atOnce : Bool) (carried : Carried) :
    c.runRepeatedly expected q n atOnce carried = c.runRepeatedly expected q' n atOnce carried := by
  rw [runRepeatedly, runRepeatedly, c.runAtOnce_congr expected h, c.runInTurn_congr expected h]

/-- **An empty token is no token.** With either, a query has the same request for every entry,
protocol and target; a client sends the same and gets the same answer or failure; every answer is
checked alike, denials included; and so it is with calls that are repeated. -/
theorem emptyToken_eq_none (c : Client) (q : Query) (expected : Expectation) (n : Nat)
    (atOnce : Bool) (carried : Carried) :
    (∀ (e : Entry) (protocol : Protocol) (target : Target),
      e.request protocol target { q with token := some "" } =
        e.request protocol target { q with token := none }) ∧
    c.run { q with token := some "" } carried = c.run { q with token := none } carried ∧
    (∀ a, c.check expected (some "") a = c.check expected none a) ∧
    c.runRepeatedly expected { q with token := some "" } n atOnce carried =
      c.runRepeatedly expected { q with token := none } n atOnce carried :=
  ⟨fun e protocol target => e.request_congr protocol target q.alike_empty,
    c.run_congr q.alike_empty carried,
    fun a => a.check_congr c.entry expected q.alike_empty.bearer,
    c.runRepeatedly_congr expected q.alike_empty n atOnce carried⟩

end Client

/-! ## On the command line -/

namespace CommandLine

/-- The arguments of a request with this token. -/
def RequestArguments.withToken (r : RequestArguments) (token : Option String) : RequestArguments :=
  { r with token := token }

/-- A token goes into the query and nowhere else. -/
theorem queryOf_withToken (x : Context) (r : RequestArguments) (token : Option String) :
    queryOf x (r.withToken token) =
      (queryOf x r).map fun made => (made.1, { made.2 with token := token }) := by
  show (clientOf x r).bind _ = ((clientOf x r).bind _).map _
  cases clientOf x r with
  | error report => rfl
  | ok client =>
    show (textOf client r.question).bind _ = ((textOf client r.question).bind _).map _
    cases textOf client r.question <;> rfl

/-- A token goes into the query that is prepared and nowhere else. -/
theorem prepare_withToken (x : Context) (a : QueryArguments) (token : Option String) :
    prepare x { a with request := a.request.withToken token } =
      (prepare x a).map fun made => (made.1, { made.2.1 with token := token }, made.2.2) := by
  show (queryOf x (a.request.withToken token)).bind _ = ((queryOf x a.request).bind _).map _
  rw [queryOf_withToken]
  cases queryOf x a.request with
  | error report => rfl
  | ok made =>
    show (expectationOf made.1 a).bind _ = ((expectationOf made.1 a).bind _).map _
    cases expectationOf made.1 a <;> rfl

/-- Like queries that are sent once are reported alike. -/
theorem queryOnce_congr (client : Client) {q q' : Query} (h : q.Alike q')
    (expected : Option Expectation) :
    queryOnce client q expected = queryOnce client q' expected := by
  have hcheck : ∀ expected a, client.check expected q.token a = client.check expected q'.token a :=
    fun expected a => a.check_congr client.entry expected h.bearer
  simp only [queryOnce, client.run_congr h, hcheck]

/-- Like queries that are sent several times are reported alike. -/
theorem queryRepeatedly_congr (client : Client) {q q' : Query} (h : q.Alike q')
    (a : QueryArguments) (expected : Option Expectation) :
    queryRepeatedly client q a expected = queryRepeatedly client q' a expected := by
  cases expected with
  | none => rfl
  | some expected => simp only [queryRepeatedly, client.runRepeatedly_congr expected h]

/-- **A query with an empty token is the query without a token**: it is sent, checked and reported
alike. -/
theorem query_emptyToken (x : Context) (a : QueryArguments) :
    query x { a with request := a.request.withToken (some "") } =
      query x { a with request := a.request.withToken none } := by
  rw [query, query, prepare_withToken, prepare_withToken]
  cases prepare x a with
  | error report => rfl
  | ok made =>
    obtain ⟨client, q, expected⟩ := made
    show ite _ (queryRepeatedly client { q with token := some "" } a expected)
        (queryOnce client { q with token := some "" } expected) =
      ite _ (queryRepeatedly client { q with token := none } a expected)
        (queryOnce client { q with token := none } expected)
    rw [queryRepeatedly_congr client q.alike_empty, queryOnce_congr client q.alike_empty]

/-- A request with an empty token is shown as the request without a token. -/
theorem render_emptyToken (x : Context) (r : RequestArguments) :
    render x (r.withToken (some "")) = render x (r.withToken none) := by
  rw [render, render, queryOf_withToken, queryOf_withToken]
  cases queryOf x r with
  | error report => rfl
  | ok made =>
    show Except.ok (requestText made.1 (made.1.request { made.2 with token := some "" })) =
      .ok (requestText made.1 (made.1.request { made.2 with token := none }))
    rw [made.1.request_congr made.2.alike_empty]

end CommandLine

end ModelProbe
