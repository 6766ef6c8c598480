import Mathlib
import ModelProbe.Client.Repeated
/-!
# Repeated calls agree

In turn and at once, repeated calls come out alike: with all results in the order in which the
calls began, or with the failure of the first call that fails. When a call finishes does not
matter.

* `joined_mapM`: what comes of results that are taken together.
* `joinResults_of_perm`: the order in which calls finish does not matter.
* `runRepeatedly_joined`: both ways of calling come out alike.
-/

namespace ModelProbe.Client

variable {ε α : Type}

/-! ## Results taken together -/

/-- What the results of `n` calls are together: all of them, in order, or the failure of the first
call that fails. -/
inductive Joined (result : Nat → Except ε α) (n : Nat) : Except ε (List α) → Prop
  | all {as : List α} (length : as.length = n)
      (each : ∀ i (h : i < as.length), result i = .ok as[i]) : Joined result n (.ok as)
  | first {k : Nat} {e : ε} (lt : k < n) (before : ∀ i < k, ∃ a, result i = .ok a)
      (fails : result k = .error e) : Joined result n (.error e)

/-- One more call that succeeds adds its result. -/
theorem Joined.ok_append {result : Nat → Except ε α} {n : Nat} {as : List α} {a : α}
    (h : Joined result n (.ok as)) (ha : result n = .ok a) :
    Joined result (n + 1) (.ok (as ++ [a])) := by
  obtain ⟨rfl, each⟩ := h
  refine .all (by simp) fun i hi => ?_
  rw [List.length_append, List.length_singleton] at hi
  by_cases hlast : i = as.length
  · subst hlast
    simp [ha]
  · have hlt : i < as.length := by omega
    rw [List.getElem_append_left hlt]
    exact each i hlt

/-- One more call that fails makes the calls before it fail. -/
theorem Joined.error_of_ok {result : Nat → Except ε α} {n : Nat} {as : List α} {e : ε}
    (h : Joined result n (.ok as)) (he : result n = .error e) :
    Joined result (n + 1) (.error e) := by
  obtain ⟨rfl, each⟩ := h
  exact .first (Nat.lt_succ_self _) (fun i hi => ⟨as[i], each i hi⟩) he

/-- After a failure, one more call changes nothing. -/
theorem Joined.error_succ {result : Nat → Except ε α} {n : Nat} {e : ε}
    (h : Joined result n (.error e)) : Joined result (n + 1) (.error e) := by
  cases h with
  | first lt before fails => exact .first (Nat.lt_succ_of_lt lt) before fails

/-- Taking the results one after another joins them. -/
theorem joined_mapM (result : Nat → Except ε α) (n : Nat) :
    Joined result n (((List.range n).map result).mapM id) := by
  induction n with
  | zero => exact .all rfl fun i hi => absurd hi (Nat.not_lt_zero i)
  | succ n ih =>
    rw [List.range_succ, List.map_append, List.mapM_append]
    cases hbefore : ((List.range n).map result).mapM id with
    | error e =>
      rw [hbefore] at ih
      exact ih.error_succ
    | ok as =>
      rw [hbefore] at ih
      cases hlast : result n with
      | error e =>
        have hstep : [result n].mapM id = .error e := by simp [hlast]
        rw [List.map_singleton, hstep]
        exact ih.error_of_ok hlast
      | ok a =>
        have hstep : [result n].mapM id = .ok [a] := by simp [hlast]
        rw [List.map_singleton, hstep]
        exact ih.ok_append hlast

/-! ## Calls -/

/-- What comes of a call before which so many others were carried. -/
def call (c : Client) (expected : Expectation) (q : Query) (count : Nat) :
    Except Failure Answer :=
  c.checkedOutcome expected q (c.replyAfter q count)

/-- In turn, the results are taken one after another. -/
theorem runInTurn_eq_mapM (c : Client) (expected : Expectation) (q : Query) (n : Nat) :
    ∀ carried : Carried, (c.runInTurn expected q n carried).1 =
      ((List.range n).map fun i => c.call expected q (carried.length + i)).mapM id := by
  induction n with
  | zero => intro carried; rfl
  | succ n ih =>
    intro carried
    -- The later calls are those of a run that begins with one more request carried.
    have hrest := ih (carried ++ [c.request q])
    have hshift : (fun i => c.call expected q ((carried ++ [c.request q]).length + i)) =
        (fun i => c.call expected q (carried.length + i)) ∘ Nat.succ := by
      funext i
      simp [Nat.add_comm, Nat.add_left_comm]
    rw [hshift] at hrest
    rw [List.range_succ_eq_map, List.map_cons, List.map_map, List.mapM_cons, ← hrest, runInTurn,
      Nat.add_zero, id, call]
    cases c.checkedOutcome expected q (c.replyAfter q carried.length) with
    | error e => rfl
    | ok a =>
      dsimp only
      rcases c.runInTurn expected q n (carried ++ [c.request q]) with ⟨_ | _, _⟩ <;> rfl

/-- However the calls finish, each is found by its number. -/
theorem find?_index_of_perm {c : Client} {expected : Expectation} {q : Query} {n : Nat}
    {carried : Carried} {finished : List Finished}
    (hfinished : finished.Perm (c.callsAtOnce expected q n carried)) {i : Nat} (hi : i < n) :
    (finished.find? fun call => call.index == i).map Finished.result =
      some (c.call expected q (carried.length + i)) := by
  have hmem : ∀ f, f ∈ finished ↔ f ∈ c.callsAtOnce expected q n carried :=
    fun f => hfinished.mem_iff
  simp only [callsAtOnce, List.mem_map, List.mem_range] at hmem
  cases hfind : finished.find? fun call => call.index == i with
  | none =>
    have hcall := (hmem _).2 ⟨i, hi, rfl⟩
    have hindex := List.find?_eq_none.1 hfind _ hcall
    exact absurd (beq_self_eq_true i) hindex
  | some f =>
    -- What was found is one of the calls that began, and its number says which.
    have hindex : f.index = i := by simpa using List.find?_some hfind
    obtain ⟨j, -, rfl⟩ := (hmem f).1 (List.mem_of_find?_eq_some hfind)
    subst hindex
    rfl

/-- **When a call finishes does not matter.** The results come out in the order in which the calls
began. -/
theorem joinResults_of_perm {c : Client} {expected : Expectation} {q : Query} {n : Nat}
    {carried : Carried} {finished : List Finished}
    (hfinished : finished.Perm (c.callsAtOnce expected q n carried)) :
    joinResults n finished =
      ((List.range n).map fun i => c.call expected q (carried.length + i)).mapM id := by
  have hresults : ((List.range n).filterMap fun i =>
      (finished.find? fun call => call.index == i).map Finished.result) =
        (List.range n).map fun i => c.call expected q (carried.length + i) := by
    rw [← List.filterMap_eq_map]
    refine List.filterMap_congr fun i hi => ?_
    exact find?_index_of_perm hfinished (List.mem_range.1 hi)
  rw [joinResults, hresults]

/-- **Repeated calls agree.** From the same requests on, calls in turn and calls at once come out
alike, in whatever order the calls at once finish: with all results in the order of the calls, or
with the failure of the first call that fails. -/
theorem runRepeatedly_joined (c : Client) (expected : Expectation) (q : Query) (n : Nat)
    (carried : Carried) :
    ∃ r, Joined (fun i => c.call expected q (carried.length + i)) n r ∧
      (c.runRepeatedly expected q n false carried).1 = r ∧
      (c.runRepeatedly expected q n true carried).1 = r ∧
      ∀ finished : List Finished, finished.Perm (c.callsAtOnce expected q n carried) →
        joinResults n finished = r := by
  refine ⟨_, joined_mapM _ n, c.runInTurn_eq_mapM expected q n carried, ?_, ?_⟩
  · exact joinResults_of_perm (List.mergeSort_perm _ _)
  · exact fun finished hfinished => joinResults_of_perm hfinished

/-- A client whose first call takes some time, whose second call takes too long, and whose third
call is over first and cannot begin. -/
def slowClient : Client :=
  { (default : Client) with
    entry := { (default : Entry) with fields := .ofList [("response_text", "text")] }
    timeout := ⟨10⟩
    transport := .scripted "" (fun _ => "") [
      ⟨⟨7⟩, .ok { stdout := "\x7b\"text\": \"a\"\x7d" }⟩,
      ⟨⟨11⟩, .ok {}⟩,
      ⟨⟨0⟩, .error (.spawn "curl" "no such file")⟩] }

/-- The second of three calls fails first, though the third is over before it. -/
theorem runRepeatedly_slowClient :
    (slowClient.callsAtOnce (.text "a") default 3 []).reverse.Perm
        (slowClient.callsAtOnce (.text "a") default 3 []) ∧
      (slowClient.runRepeatedly (.text "a") default 3 false []).1 =
        .error (.execution "" "" "timed out after 10ms") ∧
      (slowClient.runRepeatedly (.text "a") default 3 true []).1 =
        .error (.execution "" "" "timed out after 10ms") ∧
      joinResults 3 (slowClient.callsAtOnce (.text "a") default 3 []).reverse =
        .error (.execution "" "" "timed out after 10ms") := by
  obtain ⟨r, -, hturn, honce, hperm⟩ := runRepeatedly_joined slowClient (.text "a") default 3 []
  have hr : (slowClient.runRepeatedly (.text "a") default 3 false []).1 =
      .error (.execution "" "" "timed out after 10ms") := by cbv
  have hreverse := List.reverse_perm (slowClient.callsAtOnce (.text "a") default 3 [])
  refine ⟨hreverse, hr, ?_, ?_⟩
  · rw [honce, ← hturn, hr]
  · rw [hperm _ hreverse, ← hturn, hr]

end ModelProbe.Client
