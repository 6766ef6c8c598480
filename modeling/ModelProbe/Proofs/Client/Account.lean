import Mathlib
import ModelProbe.Proofs.Client.Masking
import ModelProbe.Proofs.Client.Repeated
/-!
# How many requests repeated calls send

Calls in turn stop behind the first call that fails, in the transport, by timeout or because its
answer is not the expected one. Calls at once are all made. Either way every request is the
query's own.

* `fails_iff`: which calls fail.
* `runInTurn_add`: after calls that pass, a run goes on with the calls that are left.
* `runRepeatedly_carried`: what is sent, and what comes of it.
-/

namespace ModelProbe.Client

variable {c : Client} {expected : Expectation} {q : Query}

/-! ## Calls that pass and calls that fail -/

/-- A call passes with an answer: the reply comes in time, the transport reports no failure, and
the answer that its output makes is the expected one. -/
structure Passes (c : Client) (expected : Expectation) (q : Query) (reply : Reply) (a : Answer) :
    Prop where
  inTime : ¬ c.timeout.milliseconds < reply.after.milliseconds
  read : ∃ out, reply.outcome = .ok out ∧ out.success = true ∧ a = Answer.ofText out.stdout
  accepted : c.check expected q.token a = .ok ()

/-- A call fails. -/
inductive Fails (c : Client) (expected : Expectation) (q : Query) (reply : Reply) : Prop
  /-- The transport fails, or the reply comes too late. -/
  | call {stdout stderr : String} (observed : Observed c reply stdout stderr)
  /-- The answer is not the expected one. -/
  | verdict {out : Output} {e : Failure}
      (inTime : ¬ c.timeout.milliseconds < reply.after.milliseconds)
      (outcome : reply.outcome = .ok out) (success : out.success = true)
      (rejected : c.check expected q.token (Answer.ofText out.stdout) = .error e)

/-- The answers that a transport's reply makes. -/
theorem outcome_eq_ok_iff {r : Request} {reply : Reply} {a : Answer} :
    c.outcome r reply = .ok a ↔ ¬ c.timeout.milliseconds < reply.after.milliseconds ∧
      ∃ out, reply.outcome = .ok out ∧ out.success = true ∧ a = Answer.ofText out.stdout := by
  constructor
  · intro h
    unfold outcome at h
    split at h
    · cases h
    · next inTime =>
      split at h
      · cases h
      · next out hout =>
        split at h
        · next hsuccess => exact ⟨inTime, out, hout, hsuccess, (Except.ok.inj h).symm⟩
        · cases h
  · rintro ⟨inTime, out, hout, hsuccess, rfl⟩
    rw [outcome, if_neg inTime, hout]
    exact if_pos hsuccess

/-- A checked call comes out with an answer exactly when it passes with it. -/
theorem checkedOutcome_eq_ok_iff {reply : Reply} {a : Answer} :
    c.checkedOutcome expected q reply = .ok a ↔ Passes c expected q reply a := by
  constructor
  · intro h
    unfold checkedOutcome at h
    split at h
    · cases h
    · next b hb =>
      obtain ⟨inTime, read⟩ := outcome_eq_ok_iff.1 hb
      split at h
      · cases h
      · next hcheck =>
        obtain rfl := Except.ok.inj h
        exact ⟨inTime, read, hcheck⟩
  · rintro ⟨inTime, read, accepted⟩
    rw [checkedOutcome, outcome_eq_ok_iff.2 ⟨inTime, read⟩]
    dsimp only
    rw [accepted]

/-- A checked call comes out with a failure exactly when it fails. -/
theorem checkedOutcome_eq_error_iff {reply : Reply} :
    (∃ e, c.checkedOutcome expected q reply = .error e) ↔ Fails c expected q reply := by
  constructor
  · rintro ⟨e, h⟩
    unfold checkedOutcome at h
    split at h
    · next f hf =>
      obtain ⟨stdout, stderr, observed, -⟩ := outcome_eq_error_iff.1 hf
      exact .call observed
    · next a ha =>
      obtain ⟨inTime, out, hout, hsuccess, rfl⟩ := outcome_eq_ok_iff.1 ha
      split at h
      · next rejected => exact .verdict inTime hout hsuccess rejected
      · cases h
  · rintro (observed | ⟨inTime, hout, hsuccess, rejected⟩)
    · have hfails : c.outcome (c.request q) reply = .error _ :=
        outcome_eq_error_iff.2 ⟨_, _, observed, rfl⟩
      exact ⟨_, by rw [checkedOutcome, hfails]⟩
    · have hread : c.outcome (c.request q) reply = .ok _ :=
        outcome_eq_ok_iff.2 ⟨inTime, _, hout, hsuccess, rfl⟩
      exact ⟨_, by rw [checkedOutcome, hread]; dsimp only; rw [rejected]⟩

/-- A call fails exactly when it passes with no answer. -/
theorem fails_iff {reply : Reply} :
    Fails c expected q reply ↔ ∀ a, ¬ Passes c expected q reply a := by
  rw [← checkedOutcome_eq_error_iff]
  constructor
  · rintro ⟨e, he⟩ a ha
    rw [checkedOutcome_eq_ok_iff.2 ha] at he
    cases he
  · intro h
    cases hcall : c.checkedOutcome expected q reply with
    | error e => exact ⟨e, rfl⟩
    | ok a => exact absurd (checkedOutcome_eq_ok_iff.1 hcall) (h a)

/-! ## Runs in turn -/

/-- One call that passes: the run goes on, and its answer comes first. -/
theorem runInTurn_succ_of_ok {carried : Carried} {a : Answer}
    (h : c.call expected q carried.length = .ok a) (n : Nat) :
    c.runInTurn expected q (n + 1) carried =
      ((c.runInTurn expected q n (carried ++ [c.request q])).1.map (a :: ·),
        (c.runInTurn expected q n (carried ++ [c.request q])).2) := by
  rw [call] at h
  rw [runInTurn, h]
  dsimp only
  rcases c.runInTurn expected q n (carried ++ [c.request q]) with ⟨_ | _, _⟩ <;> rfl

/-- One call that fails: the run stops behind it. -/
theorem runInTurn_succ_of_error {carried : Carried} {e : Failure}
    (h : c.call expected q carried.length = .error e) (n : Nat) :
    c.runInTurn expected q (n + 1) carried = (.error e, carried ++ [c.request q]) := by
  rw [call] at h
  rw [runInTurn, h]

/-- **After calls that pass, a run goes on with the calls that are left.** Each of the calls has
sent the query's request, and their answers come first. -/
theorem runInTurn_add (m : Nat) : ∀ (as : List Answer) (carried : Carried),
    (∀ i (h : i < as.length), c.call expected q (carried.length + i) = .ok as[i]) →
      c.runInTurn expected q (as.length + m) carried =
        ((c.runInTurn expected q m (carried ++ List.replicate as.length (c.request q))).1.map
            (as ++ ·),
          (c.runInTurn expected q m (carried ++ List.replicate as.length (c.request q))).2) := by
  intro as
  induction as with
  | nil =>
    intro carried _
    simp only [List.length_nil, Nat.zero_add, List.replicate_zero, List.append_nil]
    rcases c.runInTurn expected q m carried with ⟨_ | _, _⟩ <;> rfl
  | cons a as ih =>
    intro carried hpass
    have hfirst : c.call expected q carried.length = .ok a := hpass 0 (by simp)
    -- The other calls are those of a run that begins with one more request carried.
    have hothers : ∀ i (h : i < as.length),
        c.call expected q ((carried ++ [c.request q]).length + i) = .ok as[i] := by
      intro i hi
      have hnext := hpass (i + 1) (by simpa using hi)
      rw [List.getElem_cons_succ] at hnext
      rw [← hnext, List.length_append, List.length_singleton]
      congr 1
      omega
    have hcarried : carried ++ [c.request q] ++ List.replicate as.length (c.request q) =
        carried ++ List.replicate (as.length + 1) (c.request q) := by
      rw [List.append_assoc, List.replicate_succ]
      rfl
    have hlength : (a :: as).length + m = as.length + m + 1 := by
      simp only [List.length_cons]
      omega
    rw [hlength, runInTurn_succ_of_ok hfirst, ih _ hothers, hcarried, List.length_cons]
    dsimp only
    rcases c.runInTurn expected q m _ with ⟨_ | _, _⟩ <;> rfl

/-- Calls none of which fails have answers, one for each call. -/
theorem exists_answers {carried : Carried} {k : Nat}
    (h : ∀ i < k, ¬ Fails c expected q (c.replyAfter q (carried.length + i))) :
    ∃ as : List Answer, as.length = k ∧
      ∀ i (hi : i < as.length), Passes c expected q (c.replyAfter q (carried.length + i)) as[i] := by
  induction k with
  | zero => exact ⟨[], rfl, fun i hi => absurd hi (Nat.not_lt_zero i)⟩
  | succ k ih =>
    obtain ⟨as, rfl, hpass⟩ := ih fun i hi => h i (Nat.lt_succ_of_lt hi)
    have hlast := h as.length (Nat.lt_succ_self _)
    simp only [fails_iff, not_forall, not_not] at hlast
    obtain ⟨a, ha⟩ := hlast
    refine ⟨as ++ [a], by simp, fun i hi => ?_⟩
    rcases Nat.lt_or_ge i as.length with hlt | hge
    · rw [List.getElem_append_left hlt]
      exact hpass i hlt
    · obtain rfl : i = as.length := by
        rw [List.length_append, List.length_singleton] at hi
        omega
      simpa using ha

/-! ## Calls at once -/

/-- Calls at once send the query's request as often as there are calls. -/
theorem map_request_callsAtOnce (n : Nat) (carried : Carried) :
    (c.callsAtOnce expected q n carried).map Finished.request =
      List.replicate n (c.request q) := by
  rw [List.eq_replicate_iff]
  constructor
  · simp [callsAtOnce]
  · intro r hr
    simp only [callsAtOnce, List.map_map, List.mem_map, Function.comp] at hr
    obtain ⟨i, -, rfl⟩ := hr
    rfl

/-- **When all calls pass, every request is sent and every answer comes back**, in turn as well as
at once. -/
theorem runRepeatedly_of_passes {n : Nat} {carried : Carried}
    (hpass : ∀ i < n, ∃ a, Passes c expected q (c.replyAfter q (carried.length + i)) a)
    (atOnce : Bool) :
    ∃ as : List Answer, as.length = n ∧ c.runRepeatedly expected q n atOnce carried =
      (.ok as, carried ++ List.replicate n (c.request q)) := by
  have hnone : ∀ i < n, ¬ Fails c expected q (c.replyAfter q (carried.length + i)) := by
    intro i hi hfails
    obtain ⟨a, ha⟩ := hpass i hi
    exact fails_iff.1 hfails a ha
  obtain ⟨as, rfl, hanswers⟩ := exists_answers hnone
  have hturn : c.runInTurn expected q as.length carried =
      (.ok as, carried ++ List.replicate as.length (c.request q)) := by
    show c.runInTurn expected q (as.length + 0) carried = _
    rw [runInTurn_add 0 as carried fun i hi => checkedOutcome_eq_ok_iff.2 (hanswers i hi),
      runInTurn]
    show (Except.ok (as ++ []), _) = _
    rw [List.append_nil]
  refine ⟨as, rfl, ?_⟩
  cases atOnce with
  | false => exact hturn
  | true =>
    -- The results of calls at once, put into order, are those of calls in turn.
    have hperm : (byTime (c.callsAtOnce expected q as.length carried)).Perm
        (c.callsAtOnce expected q as.length carried) := List.mergeSort_perm _ _
    have honce : joinResults as.length (byTime (c.callsAtOnce expected q as.length carried)) =
        .ok as := by
      rw [joinResults_of_perm hperm, ← runInTurn_eq_mapM, hturn]
    show (joinResults as.length (byTime (c.callsAtOnce expected q as.length carried)), _) = _
    rw [honce]
    show (_, carried ++ (c.callsAtOnce expected q as.length carried).map Finished.request) = _
    rw [map_request_callsAtOnce]

/-! ## The account -/

/-- **What repeated calls send.** Calls in turn send one request for each call up to the first that
fails, and all of them when none fails; then each result is what the output of its call was read
as. Calls at once send all requests, whatever comes of them. Every request is the query's. -/
theorem runRepeatedly_carried (c : Client) (expected : Expectation) (q : Query) (n : Nat)
    (carried : Carried) :
    (∀ k < n, (∀ i < k, ¬ Fails c expected q (c.replyAfter q (carried.length + i))) →
      Fails c expected q (c.replyAfter q (carried.length + k)) →
        ∃ e, c.runRepeatedly expected q n false carried =
          (.error e, carried ++ List.replicate (k + 1) (c.request q))) ∧
    ((∀ i < n, ¬ Fails c expected q (c.replyAfter q (carried.length + i))) →
      ∃ as : List Answer, c.runRepeatedly expected q n false carried =
          (.ok as, carried ++ List.replicate n (c.request q)) ∧
        as.length = n ∧ ∀ i (h : i < as.length), ∃ out,
          (c.replyAfter q (carried.length + i)).outcome = .ok out ∧
            as[i] = Answer.ofText out.stdout) ∧
    (c.runRepeatedly expected q n true carried).2 =
      carried ++ List.replicate n (c.request q) := by
  refine ⟨fun k hk hbefore hfails => ?_, fun hnone => ?_, ?_⟩
  · obtain ⟨as, rfl, hpass⟩ := exists_answers hbefore
    obtain ⟨e, he⟩ := checkedOutcome_eq_error_iff.2 hfails
    obtain ⟨m, rfl⟩ : ∃ m, n = as.length + (m + 1) := ⟨n - as.length - 1, by omega⟩
    have hlast : c.call expected q
        (carried ++ List.replicate as.length (c.request q)).length = .error e := by
      rw [List.length_append, List.length_replicate]
      exact he
    refine ⟨e, ?_⟩
    show c.runInTurn expected q (as.length + (m + 1)) carried = _
    rw [runInTurn_add (m + 1) as carried fun i hi => checkedOutcome_eq_ok_iff.2 (hpass i hi),
      runInTurn_succ_of_error hlast, List.append_assoc, ← List.replicate_succ']
    rfl
  · obtain ⟨as, rfl, hpass⟩ := exists_answers hnone
    refine ⟨as, ?_, rfl, fun i hi => ?_⟩
    · show c.runInTurn expected q (as.length + 0) carried = _
      rw [runInTurn_add 0 as carried fun i hi => checkedOutcome_eq_ok_iff.2 (hpass i hi), runInTurn]
      show (Except.ok (as ++ []), _) = _
      rw [List.append_nil]
    · obtain ⟨out, hout, -, hread⟩ := (hpass i hi).read
      exact ⟨out, hout, hread⟩
  · show carried ++ (c.callsAtOnce expected q n carried).map Finished.request = _
    rw [map_request_callsAtOnce]

/-- The first call of the slow client passes, the second takes too long, and the third is made only
when all calls are made at once. -/
theorem runRepeatedly_carried_slowClient :
    (¬ Fails slowClient (.text "a") default (slowClient.replyAfter default 0) ∧
      Fails slowClient (.text "a") default (slowClient.replyAfter default 1)) ∧
      (slowClient.runRepeatedly (.text "a") default 3 false []).2.length = 2 ∧
      (slowClient.runRepeatedly (.text "a") default 1 false []).2.length = 1 ∧
      (slowClient.runRepeatedly (.text "a") default 3 true []).2.length = 3 := by
  have hpass : ∃ a, slowClient.checkedOutcome (.text "a") default
      (slowClient.replyAfter default 0) = .ok a := ⟨_, by cbv⟩
  have hfirst : ¬ Fails slowClient (.text "a") default (slowClient.replyAfter default 0) := by
    obtain ⟨a, ha⟩ := hpass
    exact fun hfails => fails_iff.1 hfails a (checkedOutcome_eq_ok_iff.1 ha)
  have hsecond : Fails slowClient (.text "a") default (slowClient.replyAfter default 1) :=
    .call (.late (by decide))
  have hbefore : ∀ i < 1, ¬ Fails slowClient (.text "a") default
      (slowClient.replyAfter default (([] : Carried).length + i)) := by
    intro i hi
    obtain rfl : i = 0 := by omega
    exact hfirst
  obtain ⟨hstop, -, honce⟩ := runRepeatedly_carried slowClient (.text "a") default 3 []
  obtain ⟨-, hall, -⟩ := runRepeatedly_carried slowClient (.text "a") default 1 []
  obtain ⟨e, hstopped⟩ := hstop 1 (by decide) hbefore hsecond
  obtain ⟨as, hpassed, -⟩ := hall hbefore
  exact ⟨⟨hfirst, hsecond⟩, by rw [hstopped]; rfl, by rw [hpassed]; rfl, by rw [honce]; rfl⟩

end ModelProbe.Client
