import ModelProbe.Client
/-!
# Repeated calls

The same query is sent several times, and every answer is checked. In turn, a call begins when the
one before has succeeded. At once, all calls begin together and finish in any order; their results
are then put into the order in which the calls began.
-/

namespace ModelProbe.Client

/-- What comes of a call whose answer is checked. -/
def checkedOutcome (c : Client) (expected : Expectation) (q : Query) (reply : Reply) :
    Except Failure Answer :=
  match c.outcome (c.request q) reply with
  | .error e => .error e
  | .ok a =>
    match c.check expected q.token a with
    | .error e => .error e
    | .ok () => .ok a

/-- The reply to a query after these requests. -/
def replyAfter (c : Client) (q : Query) (count : Nat) : Reply :=
  c.transport.reply count (c.request q)

/-! ## In turn -/

/-- Calls one after another, up to the first that fails. -/
def runInTurn (c : Client) (expected : Expectation) (q : Query) :
    Nat → Carried → Except Failure (List Answer) × Carried
  | 0, carried => (.ok [], carried)
  | n + 1, carried =>
    let after := carried ++ [c.request q]
    match c.checkedOutcome expected q (c.replyAfter q carried.length) with
    | .error e => (.error e, after)
    | .ok a =>
      match runInTurn c expected q n after with
      | (.error e, carried) => (.error e, carried)
      | (.ok as, carried) => (.ok (a :: as), carried)

/-! ## At once -/

/-- A call that has finished. -/
structure Finished where
  /-- The number of calls that began before it. -/
  index : Nat
  /-- What it has sent. -/
  request : Request
  /-- When it finished. -/
  time : Duration
  result : Except Failure Answer

/-- The calls that begin after these requests, in the order in which they begin. A call is over
when its reply comes or when its time is up. -/
def callsAtOnce (c : Client) (expected : Expectation) (q : Query) (n : Nat) (carried : Carried) :
    List Finished :=
  (List.range n).map fun i =>
    let reply := c.replyAfter q (carried.length + i)
    { index := i
      request := c.request q
      time := ⟨min reply.after.milliseconds c.timeout.milliseconds⟩
      result := c.checkedOutcome expected q reply }

/-- The calls in the order in which they finish. -/
def byTime (calls : List Finished) : List Finished :=
  calls.mergeSort fun a b => a.time.milliseconds ≤ b.time.milliseconds

/-- The results in the order in which the calls began, or the first failure among them. -/
def joinResults (n : Nat) (finished : List Finished) : Except Failure (List Answer) :=
  ((List.range n).filterMap fun i =>
    (finished.find? fun call => call.index == i).map Finished.result).mapM id

/-- Calls all at once. -/
def runAtOnce (c : Client) (expected : Expectation) (q : Query) (n : Nat) (carried : Carried) :
    Except Failure (List Answer) × Carried :=
  let calls := c.callsAtOnce expected q n carried
  (joinResults n (byTime calls), carried ++ calls.map Finished.request)

/-! ## Either way -/

/-- Sends a query `n` times and checks every answer. -/
def runRepeatedly (c : Client) (expected : Expectation) (q : Query) (n : Nat) (atOnce : Bool)
    (carried : Carried) : Except Failure (List Answer) × Carried :=
  if atOnce then c.runAtOnce expected q n carried else c.runInTurn expected q n carried

/-- Sends the default query `n` times and checks every answer against what it should bring. -/
def runDefaultRepeatedly (c : Client) (q : Query) (n : Nat) (atOnce : Bool) (carried : Carried) :
    Except Failure (List Answer) × Carried :=
  match c.requireDefaultQuery with
  | .error e => (.error e, carried)
  | .ok query =>
    match c.defaultExpectation q.model with
    | .error e => (.error e, carried)
    | .ok expected => c.runRepeatedly expected { q with text := query.text } n atOnce carried

end ModelProbe.Client
