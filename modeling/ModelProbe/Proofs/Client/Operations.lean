import ModelProbe.Proofs.Client.Masking
import ModelProbe.Proofs.Client.Repeated
/-!
# What the operations of a client fail with

An operation that fails has either found something wrong with the catalog, before anything was
sent, or has made calls, and then what failed is a call or its answer.

* `liesInCall_of_check`, `liesInCall_of_outcome`: what an answer and a call fail with.
* `perform_eq_error`: the two ways in which an operation fails.
-/

namespace ModelProbe

/-- Whether a failure is that of a call or of its answer. -/
def Failure.liesInCall : Failure → Bool
  | execution .. | textNotFound .. | textMismatch .. | reasonMissing _ | reasonMismatch .. => true
  | _ => false

/-- What lies in a call does not lie in the catalog or the settings. -/
theorem Failure.isConfiguration_of_liesInCall {f : Failure} (h : f.liesInCall = true) :
    f.isConfiguration = false := by
  cases f <;> first | rfl | cases h

/-! ## Answers -/

/-- An answer without a text fails as an answer. -/
theorem Answer.liesInCall_of_text {entry : Entry} {a : Answer} {f : Failure}
    (h : a.text entry = .error f) : f.liesInCall = true := by
  unfold text at h
  split at h
  all_goals
    split at h
    · cases h
    · obtain rfl := Except.error.inj h
      rfl

/-- What is wrong with a denial lies in the answer. -/
theorem Answer.liesInCall_of_checkDenied {token : Option String} {a : Answer} {f : Failure}
    (h : a.checkDenied token = .error f) : f.liesInCall = true := by
  unfold checkDenied at h
  split at h
  · obtain rfl := Except.error.inj h
    rfl
  · dsimp only at h
    split at h
    · cases h
    · obtain rfl := Except.error.inj h
      rfl

/-- **What a check finds wrong lies in the answer.** -/
theorem Answer.liesInCall_of_check {entry : Entry} {expected : Expectation}
    {token : Option String} {a : Answer} {f : Failure}
    (h : a.check entry expected token = .error f) : f.liesInCall = true := by
  cases expected with
  | denied => exact liesInCall_of_checkDenied h
  | text t =>
    unfold check at h
    dsimp only at h
    split at h
    · next e he =>
      obtain rfl := Except.error.inj h
      exact liesInCall_of_text he
    · split at h
      · cases h
      · obtain rfl := Except.error.inj h
        rfl
  | pattern p =>
    unfold check at h
    dsimp only at h
    split at h
    · next e he =>
      obtain rfl := Except.error.inj h
      -- Only a text that is looked for in a field can be missing.
      split at he
      · exact liesInCall_of_text he
      · cases he
    · split at h
      · cases h
      · obtain rfl := Except.error.inj h
        rfl

namespace Client

variable {c : Client} {expected : Expectation} {q : Query} {f : Failure}

/-! ## Calls -/

/-- **What goes wrong with a call lies in the call.** -/
theorem liesInCall_of_outcome {r : Request} {reply : Reply} (h : c.outcome r reply = .error f) :
    f.liesInCall = true := by
  obtain ⟨stdout, stderr, -, rfl⟩ := outcome_eq_error_iff.1 h
  rfl

/-- What goes wrong with a checked call lies in the call or in its answer. -/
theorem liesInCall_of_checkedOutcome {reply : Reply}
    (h : c.checkedOutcome expected q reply = .error f) : f.liesInCall = true := by
  unfold checkedOutcome at h
  split at h
  · next e he =>
    obtain rfl := Except.error.inj h
    exact liesInCall_of_outcome he
  · split at h
    · next e he =>
      obtain rfl := Except.error.inj h
      exact Answer.liesInCall_of_check he
    · cases h

/-- What goes wrong with calls that are taken together lies in one of them. -/
theorem liesInCall_of_joined {n start : Nat} {r : Except Failure (List Answer)}
    (h : Joined (fun i => c.call expected q (start + i)) n r) (hr : r = .error f) :
    f.liesInCall = true := by
  subst hr
  cases h with
  | first lt before fails => exact liesInCall_of_checkedOutcome fails

/-- Calls in the order in which they finish are the same calls. -/
theorem byTime_perm (calls : List Finished) : (byTime calls).Perm calls :=
  List.mergeSort_perm calls _

/-- What goes wrong with repeated calls lies in one of them, in turn as well as at once. -/
theorem liesInCall_of_runRepeatedly {n : Nat} {atOnce : Bool} {carried : Carried}
    (h : (c.runRepeatedly expected q n atOnce carried).1 = .error f) : f.liesInCall = true := by
  cases atOnce with
  | false =>
    have hturn : (c.runInTurn expected q n carried).1 = .error f := h
    rw [runInTurn_eq_mapM] at hturn
    exact liesInCall_of_joined (joined_mapM _ n) hturn
  | true =>
    have honce : joinResults n (byTime (c.callsAtOnce expected q n carried)) = .error f := h
    rw [joinResults_of_perm (byTime_perm _)] at honce
    exact liesInCall_of_joined (joined_mapM _ n) honce

/-! ## The default query -/

/-- Without a default query, the catalog is at fault. -/
theorem isConfiguration_of_requireDefaultQuery (h : c.requireDefaultQuery = .error f) :
    f.isConfiguration = true := by
  unfold requireDefaultQuery at h
  split at h
  · cases h
  · obtain rfl := Except.error.inj h
    rfl

/-- Where a default query has no expectation, the catalog is at fault. -/
theorem isConfiguration_of_defaultExpectation {model : String}
    (h : c.defaultExpectation model = .error f) : f.isConfiguration = true := by
  unfold defaultExpectation at h
  split at h
  · next e he =>
    obtain rfl := Except.error.inj h
    exact isConfiguration_of_requireDefaultQuery he
  · unfold Expectation.ofDefaultQuery at h
    split at h
    · split at h
      · cases h
      · obtain rfl := Except.error.inj h
        rfl
    · cases h

/-! ## Operations -/

/-- What a client can be asked to do. -/
inductive Operation
  /-- To send a query. -/
  | run (q : Query)
  /-- To send the default query. -/
  | runDefault (q : Query)
  /-- To say what the default query should bring. -/
  | defaultExpectation (model : String)
  /-- To check an answer. -/
  | check (expected : Expectation) (token : Option String) (a : Answer)
  /-- To send the default query several times and check every answer. -/
  | runDefaultRepeatedly (q : Query) (n : Nat) (atOnce : Bool)
  /-- To send a query several times and check every answer. -/
  | runRepeatedly (expected : Expectation) (q : Query) (n : Nat) (atOnce : Bool)

/-- What comes of an operation, its value aside, and the requests that were carried by then. -/
def perform (c : Client) (carried : Carried) : Operation → Except Failure Unit × Carried
  | .run q => ((c.run q carried).1.map fun _ => (), (c.run q carried).2)
  | .runDefault q => ((c.runDefault q carried).1.map fun _ => (), (c.runDefault q carried).2)
  | .defaultExpectation model => ((c.defaultExpectation model).map fun _ => (), carried)
  | .check expected token a => (c.check expected token a, carried)
  | .runDefaultRepeatedly q n atOnce =>
    ((c.runDefaultRepeatedly q n atOnce carried).1.map fun _ => (),
      (c.runDefaultRepeatedly q n atOnce carried).2)
  | .runRepeatedly expected q n atOnce =>
    ((c.runRepeatedly expected q n atOnce carried).1.map fun _ => (),
      (c.runRepeatedly expected q n atOnce carried).2)

/-- An operation has failed before anything was sent, or in a call. -/
def UnsentOrInCall (carried : Carried) (f : Failure) (after : Carried) : Prop :=
  f.isConfiguration = true ∧ after = carried ∨ f.liesInCall = true

/-- Forgetting the value of a result keeps its failure. -/
theorem error_of_map {α : Type} {r : Except Failure α} (h : (r.map fun _ => ()) = .error f) :
    r = .error f := by
  cases r with
  | error e => exact congrArg Except.error (Except.error.inj h)
  | ok a => cases h

/-- The default query is not sent unless there is one. -/
theorem runDefault_eq_error {carried : Carried} (h : (c.runDefault q carried).1 = .error f) :
    UnsentOrInCall carried f (c.runDefault q carried).2 := by
  unfold runDefault at h ⊢
  split at h
  · next e he =>
    obtain rfl := Except.error.inj h
    exact .inl ⟨isConfiguration_of_requireDefaultQuery he, rfl⟩
  · exact .inr (liesInCall_of_outcome h)

/-- The default query is not sent several times unless it can be checked. -/
theorem runDefaultRepeatedly_eq_error {n : Nat} {atOnce : Bool} {carried : Carried}
    (h : (c.runDefaultRepeatedly q n atOnce carried).1 = .error f) :
    UnsentOrInCall carried f (c.runDefaultRepeatedly q n atOnce carried).2 := by
  unfold runDefaultRepeatedly at h ⊢
  split at h
  · next e he =>
    obtain rfl := Except.error.inj h
    exact .inl ⟨isConfiguration_of_requireDefaultQuery he, rfl⟩
  · split at h
    · next e he =>
      obtain rfl := Except.error.inj h
      exact .inl ⟨isConfiguration_of_defaultExpectation he, rfl⟩
    · exact .inr (liesInCall_of_runRepeatedly h)

/-- **The two ways in which an operation fails**: before anything is sent, because of the catalog,
or in a call. -/
theorem perform_eq_error {carried : Carried} {op : Operation}
    (h : (c.perform carried op).1 = .error f) :
    UnsentOrInCall carried f (c.perform carried op).2 := by
  cases op with
  | run q => exact .inr (liesInCall_of_outcome (error_of_map h))
  | runDefault q => exact runDefault_eq_error (error_of_map h)
  | defaultExpectation model =>
    exact .inl ⟨isConfiguration_of_defaultExpectation (error_of_map h), rfl⟩
  | check expected token a => exact .inr (Answer.liesInCall_of_check h)
  | runDefaultRepeatedly q n atOnce => exact runDefaultRepeatedly_eq_error (error_of_map h)
  | runRepeatedly expected q n atOnce =>
    exact .inr (liesInCall_of_runRepeatedly (error_of_map h))

end Client

end ModelProbe
