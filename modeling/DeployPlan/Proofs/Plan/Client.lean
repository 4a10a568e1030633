import DeployPlan.Proofs.Plan.Submission

/-!
Clients that submit their plans call by call. A client keeps what its submission keeps between two
calls, so others may come in between. Its turns make up the submission of its plan, for every gateway,
also one that serves others before each call.
-/

namespace DeployPlan

structure Job where
  sender : String
  time : Instant
  plan : List DeploymentRequest

def Job.record (job : Job) (i id : Nat) (r : DeploymentRequest) : SubmittedRequest :=
  ⟨id, r.write, ⟨r.environment, job.sender, job.time, i, job.plan.length⟩⟩

/-- A client in the middle of its plan: the numbers issued so far or the failure that ended it, and
the requests that were not handed over yet. -/
structure Client where
  job : Job
  answer : Except Failure (List Nat)
  rest : List DeploymentRequest

namespace Client

variable {σ : Type} (g : Gateway σ)

def ofJob (job : Job) : Client :=
  ⟨job, .ok [], job.plan⟩

def work (c : Client) : Act σ (List Nat) :=
  match c.answer with
  | .ok issued => submitFrom g c.job.sender c.job.time c.job.plan.length issued.length issued c.rest
  | .error e => Act.fail e

def turn (c : Client) (s : σ) : Client × σ :=
  match c.answer, c.rest with
  | .ok issued, r :: rest =>
    let o := (submitFrom g c.job.sender c.job.time c.job.plan.length issued.length issued [r]).run s
    ({ c with answer := o.result, rest := rest }, o.state)
  | _, _ => (c, s)

def result? (c : Client) : Option (Except Failure (List Nat)) :=
  match c.answer with
  | .ok issued => if c.rest.isEmpty then some (.ok issued) else none
  | .error e => some (.error e)

section

variable {job : Job} {issued : List Nat} {r : DeploymentRequest} {rest : List DeploymentRequest}
  {s t : σ}

theorem turn_of_ok {id : Nat}
    (answered : g.submit r.write
      ⟨r.environment, job.sender, job.time, issued.length, job.plan.length⟩ s = (.ok id, t)) :
    turn g ⟨job, .ok issued, r :: rest⟩ s = (⟨job, .ok (issued ++ [id]), rest⟩, t) := by
  simp only [turn, Gateway.submitFrom_of_ok g _ _ _ answered]
  rfl

theorem turn_of_error {e : Failure}
    (answered : g.submit r.write
      ⟨r.environment, job.sender, job.time, issued.length, job.plan.length⟩ s = (.error e, t)) :
    turn g ⟨job, .ok issued, r :: rest⟩ s = (⟨job, .error (failureAfter issued e), rest⟩, t) := by
  simp only [turn, Gateway.submitFrom_of_error g _ _ _ answered]

end

theorem work_turn (c : Client) (s : σ) :
    (((c.turn g s).1.work g).run (c.turn g s).2).result = ((c.work g).run s).result ∧
      (((c.turn g s).1.work g).run (c.turn g s).2).state = ((c.work g).run s).state := by
  obtain ⟨job, answer, rest⟩ := c
  cases answer with
  | error e => exact ⟨rfl, rfl⟩
  | ok issued =>
    cases rest with
    | nil => exact ⟨rfl, rfl⟩
    | cons r rest =>
      obtain ⟨answer, t, answered⟩ : ∃ answer t,
          g.submit r.write ⟨r.environment, job.sender, job.time, issued.length, job.plan.length⟩ s =
            (answer, t) := ⟨_, _, rfl⟩
      cases answer with
      | ok id =>
        have count : (issued ++ [id]).length = issued.length + 1 := by simp
        rw [turn_of_ok g answered]
        simp only [work, Gateway.submitFrom_of_ok g _ _ _ answered, count, and_self]
      | error e =>
        rw [turn_of_error g answered]
        simp only [work, Gateway.submitFrom_of_error g _ _ _ answered]
        exact ⟨rfl, rfl⟩

def turns : Nat → Client → σ → Client × σ
  | 0, c, s => (c, s)
  | n + 1, c, s => turns n (c.turn g s).1 (c.turn g s).2

theorem turns_work {n : Nat} {c : Client} (enough : c.rest.length ≤ n ∨ ∃ e, c.answer = .error e)
    (s : σ) :
    (c.turns g n s).1.result? = some ((c.work g).run s).result ∧
      (c.turns g n s).2 = ((c.work g).run s).state := by
  induction n generalizing c s with
  | zero =>
    obtain ⟨job, answer, rest⟩ := c
    cases answer with
    | error e => exact ⟨rfl, rfl⟩
    | ok issued =>
      rcases enough with short | ⟨e, failed⟩
      · obtain rfl := List.length_eq_zero_iff.mp (Nat.le_zero.mp short)
        exact ⟨rfl, rfl⟩
      · cases failed
  | succ n ih =>
    -- A turn takes one request off or ends the work.
    have left : (c.turn g s).1.rest.length ≤ n ∨ ∃ e, (c.turn g s).1.answer = .error e := by
      obtain ⟨job, answer, rest⟩ := c
      rcases enough with short | ⟨e, failed⟩
      · cases answer with
        | error e => exact Or.inr ⟨e, rfl⟩
        | ok issued =>
          cases rest with
          | nil => exact Or.inl (Nat.zero_le n)
          | cons r rest => exact Or.inl (Nat.le_of_succ_le_succ short)
      · cases failed
        exact Or.inr ⟨e, rfl⟩
    obtain ⟨result, state⟩ := work_turn g c s
    rw [turns, ← result, ← state]
    exact ih left (c.turn g s).2

theorem turns_ofJob (job : Job) (s : σ) :
    ((ofJob job).turns g job.plan.length s).1.result? =
        some ((submitPlan g job.plan job.sender job.time).run s).result ∧
      ((ofJob job).turns g job.plan.length s).2 =
        ((submitPlan g job.plan job.sender job.time).run s).state :=
  turns_work (c := ofJob job) g (Or.inl (Nat.le_refl _)) s

def after (job : Job) (issued : List Nat) : Client :=
  ⟨job, .ok issued, job.plan.drop issued.length⟩

theorem turn_after {job : Job} {issued : List Nat} {r : DeploymentRequest}
    (next : job.plan[issued.length]? = some r) (o : Outbox) :
    (after job issued).turn Outbox.gateway o =
      (after job (issued ++ [o.records.length + 1]),
        ⟨o.records ++ [job.record issued.length (o.records.length + 1) r]⟩) := by
  obtain ⟨inside, rfl⟩ := List.getElem?_eq_some_iff.mp next
  rw [after, List.drop_eq_getElem_cons inside, after, List.length_append]
  exact turn_of_ok Outbox.gateway rfl

theorem turn_after_all {job : Job} {issued : List Nat} (all : job.plan[issued.length]? = none)
    (o : Outbox) : (after job issued).turn Outbox.gateway o = (after job issued, o) := by
  rw [after, List.drop_eq_nil_of_le (List.getElem?_eq_none_iff.mp all)]
  rfl

theorem records_turn (c : Client) (o : Outbox) :
    o.records <+: (c.turn Outbox.gateway o).2.records := by
  obtain ⟨job, answer, rest⟩ := c
  cases answer with
  | error e => exact List.prefix_rfl
  | ok issued =>
    cases rest with
    | nil => exact List.prefix_rfl
    | cons r rest =>
      rw [turn_of_ok Outbox.gateway rfl]
      exact List.prefix_append _ _

theorem result?_after {job : Job} {issued : List Nat}
    (all : job.plan.length ≤ issued.length) : (after job issued).result? = some (.ok issued) := by
  rw [after, List.drop_eq_nil_of_le all]
  rfl

end Client

end DeployPlan
