import Mathlib.Data.List.Basic
import DeployPlan.Plan.Submission

/-!
Submission. Requests are handed over in order, each with its place in the plan. The numbers issued are
answered when no call fails; the first call that fails is the last one, and the numbers issued before
it come with its failure.
-/

namespace DeployPlan

variable {σ : Type}

def failureAfter (issued : List Nat) (e : Failure) : Failure :=
  if issued = [] then e else .partialSubmission issued e

namespace Gateway

abbrev Call : Type := String × Particulars

def callFor (sender : String) (time : Instant) (count index : Nat) (r : DeploymentRequest) : Call :=
  (r.write, ⟨r.environment, sender, time, index, count⟩)

def callsFrom (sender : String) (time : Instant) (count index : Nat)
    (requests : List DeploymentRequest) : List Call :=
  (requests.zipIdx index).map fun (r, i) => callFor sender time count i r

theorem callsFrom_cons (sender : String) (time : Instant) (count index : Nat)
    (r : DeploymentRequest) (rest : List DeploymentRequest) :
    callsFrom sender time count index (r :: rest) =
      callFor sender time count index r :: callsFrom sender time count (index + 1) rest := rfl

variable (g : Gateway σ) (sender : String) (time : Instant) (count : Nat)

theorem submitFrom_of_ok {index id : Nat} {issued : List Nat} {r : DeploymentRequest}
    {rest : List DeploymentRequest} {s t : σ}
    (answered : g.submit r.write ⟨r.environment, sender, time, index, count⟩ s = (.ok id, t)) :
    (submitFrom g sender time count index issued (r :: rest)).run s =
      { (submitFrom g sender time count (index + 1) (issued ++ [id]) rest).run t with
        events := .submitted id index r.build.buildNumber ::
          ((submitFrom g sender time count (index + 1) (issued ++ [id]) rest).run t).events } := by
  simp only [submitFrom, Act.run, answered]
  rfl

theorem submitFrom_of_error {index : Nat} {issued : List Nat} {r : DeploymentRequest}
    {rest : List DeploymentRequest} {s t : σ} {e : Failure}
    (answered : g.submit r.write ⟨r.environment, sender, time, index, count⟩ s = (.error e, t)) :
    (submitFrom g sender time count index issued (r :: rest)).run s =
      { result := .error (failureAfter issued e)
        state := t
        events := if issued = [] then [] else [.submissionStopped index e.message] } := by
  simp only [submitFrom, Act.run, answered, failureAfter, List.isEmpty_iff]
  by_cases none : issued = []
  · rw [if_pos none, if_pos none, if_pos none]
    rfl
  · rw [if_neg none, if_neg none, if_neg none]
    rfl

def logged : Gateway (σ × List (Call × Except Failure Nat)) where
  submit text p s :=
    let (answer, t) := g.submit text p s.1
    (answer, t, s.2 ++ [((text, p), answer)])

/-- The answer to `count` calls after which the gateway answered so: all numbers issued, or the
failure that came first. -/
def Concluded (issued : List Nat) (count : Nat) (answers : List (Except Failure Nat))
    (result : Except Failure (List Nat)) : Prop :=
  (∃ ids, ids.length = count ∧ answers = ids.map .ok ∧ result = .ok (issued ++ ids)) ∨
  ∃ ids e, ids.length < count ∧ answers = ids.map .ok ++ [.error e] ∧
    result = .error (failureAfter (issued ++ ids) e)

theorem Concluded.cons {issued : List Nat} {count id : Nat}
    {answers : List (Except Failure Nat)} {result : Except Failure (List Nat)}
    (rest : Concluded (issued ++ [id]) count answers result) :
    Concluded issued (count + 1) (.ok id :: answers) result := by
  rcases rest with ⟨ids, all, rfl, rfl⟩ | ⟨ids, e, some, rfl, rfl⟩
  · exact Or.inl ⟨id :: ids, by simp [all], rfl, by simp⟩
  · exact Or.inr ⟨id :: ids, e, by simpa using some, rfl, by simp⟩

theorem submitFrom_logged (rest : List DeploymentRequest) (index : Nat) (issued : List Nat) (s : σ)
    (log : List (Call × Except Failure Nat)) :
    ∃ answers,
      (submitFrom g.logged sender time count index issued rest).run (s, log) =
        { result := ((submitFrom g sender time count index issued rest).run s).result
          state := (((submitFrom g sender time count index issued rest).run s).state,
            log ++ (callsFrom sender time count index rest).zip answers)
          events := ((submitFrom g sender time count index issued rest).run s).events } ∧
      Concluded issued rest.length answers
        ((submitFrom g sender time count index issued rest).run s).result := by
  -- The index, the numbers issued so far and the log grow with each call.
  induction rest generalizing index issued s log with
  | nil =>
    refine ⟨[], ?_, Or.inl ⟨[], rfl, rfl, ?_⟩⟩
    · rw [List.zip_nil_right, List.append_nil]
      rfl
    · rw [List.append_nil]
      rfl
  | cons r rest ih =>
    obtain ⟨answer, t, answered⟩ : ∃ answer t,
        g.submit r.write ⟨r.environment, sender, time, index, count⟩ s = (answer, t) :=
      ⟨_, _, rfl⟩
    have noted : g.logged.submit r.write ⟨r.environment, sender, time, index, count⟩ (s, log) =
        (answer, t, log ++ [(callFor sender time count index r, answer)]) := by
      simp only [logged, answered]
      rfl
    rw [callsFrom_cons, List.length_cons]
    cases answer with
    | ok id =>
      obtain ⟨answers, run, concluded⟩ := ih (index + 1) (issued ++ [id]) t
        (log ++ [(callFor sender time count index r, .ok id)])
      refine ⟨.ok id :: answers, ?_, ?_⟩
      · rw [submitFrom_of_ok _ _ _ _ noted, submitFrom_of_ok _ _ _ _ answered, run,
          List.zip_cons_cons, List.append_assoc]
        rfl
      · rw [submitFrom_of_ok _ _ _ _ answered]
        exact concluded.cons
    | error e =>
      refine ⟨[.error e], ?_, Or.inr ⟨[], e, Nat.succ_pos _, rfl, ?_⟩⟩
      · rw [submitFrom_of_error _ _ _ _ noted, submitFrom_of_error _ _ _ _ answered,
          List.zip_cons_cons, List.zip_nil_right]
      · rw [submitFrom_of_error _ _ _ _ answered, List.append_nil]

end Gateway

/-- A gateway is called for the requests of a plan in order, up to the first call that fails. -/
theorem submitPlan_calls (g : Gateway σ) (plan : List DeploymentRequest) (sender : String)
    (time : Instant) (s : σ) :
    let outcome := (submitPlan g plan sender time).run s
    let calls := plan.zipIdx.map fun (r, i) =>
      (r.write, (⟨r.environment, sender, time, i, plan.length⟩ : Particulars))
    ∃ answers,
      (submitPlan g.logged plan sender time).run (s, []) =
        ⟨outcome.result, (outcome.state, calls.zip answers), outcome.events⟩ ∧
      ((∃ ids, ids.length = plan.length ∧ answers = ids.map .ok ∧ outcome.result = .ok ids) ∨
        (∃ e, plan ≠ [] ∧ answers = [.error e] ∧ outcome.result = .error e) ∨
        ∃ ids e, ids ≠ [] ∧ ids.length < plan.length ∧ answers = ids.map .ok ++ [.error e] ∧
          outcome.result = .error (.partialSubmission ids e)) := by
  intro outcome calls
  obtain ⟨answers, run, concluded⟩ := g.submitFrom_logged sender time plan.length plan 0 [] s []
  refine ⟨answers, run, ?_⟩
  rcases concluded with ⟨ids, all, answered, result⟩ | ⟨ids, e, some, answered, result⟩
  · exact Or.inl ⟨ids, all, answered, result⟩
  · by_cases first : ids = []
    · subst first
      exact Or.inr (Or.inl ⟨e, List.ne_nil_of_length_pos some, answered, result⟩)
    · rw [List.nil_append, failureAfter, if_neg first] at result
      exact Or.inr (Or.inr ⟨ids, e, first, some, answered, result⟩)

end DeployPlan
