import Mathlib
import DeployPlan.Proofs.Plan.Copying
import DeployPlan.Proofs.Plan.Selection

/-!
Outcomes. The steps of a copy fail in a fixed order: a name that is not registered, a selection that
cannot be put in order, no status to copy, a forest below the bound, nothing to deploy. Where none of
these applies there is a plan, and each of its requests deploys something.
-/

namespace DeployPlan

open Component

open Classical in
def CopiedOutcome (limit : Nat) (source : Environment) (copied : List Component)
    (answer : Except Failure (List DeploymentRequest)) : Prop :=
  if copied = [] then answer = .error (.noBuildFound source.name)
  else if ∃ b ∈ copied, limit < height b then
    ∃ b, FirstAtDepth (limit + 1) copied b ∧ answer = .error (.treeTooDeep b.name limit)
  else if ¬ ∃ b ∈ copied, ∃ a : Component, a.LiesIn b ∧ a.deployable = true then
    answer = .error .noRequestsProduced
  else ∃ requests, answer = .ok requests ∧ requests ≠ [] ∧ ∀ r ∈ requests, r.components ≠ []

def CopyOutcome (c : Catalog) (d : Dependencies) (limit : Nat) (order : CopyOrder)
    (answer : Except Failure (List DeploymentRequest)) : Prop :=
  match c.projects.lookup order.project, c.environments.lookup order.source,
    c.environments.lookup order.target with
  | none, _, _ => answer = .error (.projectNotFound order.project)
  | some _, none, _ => answer = .error (.environmentNotFound order.source)
  | some _, some _, none => answer = .error (.environmentNotFound order.target)
  | some project, some source, some _ =>
    ∃ selection, SelectionOutcome c d limit project order.selected selection ∧
      match selection with
      | .error e => answer = .error e
      | .ok ordered =>
        let statuses := (c.statuses.lookup source.id).getD []
        CopiedOutcome limit source
          (ordered.filter fun b => statuses.any (·.component == b.name)) answer

namespace Planner

variable {p : Planner} {pieces : List (List (Component × BuildStatus))}

theorem runsAnswer_of_deep (deep : p.maxDepth < heightOfAll (pieces.flatten.map (·.1)))
    (target : Environment) (order : CopyOrder) :
    ∃ b, FirstAtDepth (p.maxDepth + 1) (pieces.flatten.map (·.1)) b ∧
      p.runsAnswer target order pieces = .error (.treeTooDeep b.name p.maxDepth) := by
  obtain ⟨b, first⟩ := exists_firstAtDepth_iff.mpr deep
  obtain ⟨f, answer⟩ := runsAnswer_eq p target order pieces
  refine ⟨b, first, ?_⟩
  rw [answer, within_eq_error_iff.mpr ⟨b, first, rfl⟩]
  rfl

theorem exists_runsAnswer (low : heightOfAll (pieces.flatten.map (·.1)) ≤ p.maxDepth)
    (target : Environment) (order : CopyOrder) :
    ∃ requests, p.runsAnswer target order pieces = .ok requests := by
  obtain ⟨f, answer⟩ := runsAnswer_eq p target order pieces
  rw [answer, within_eq_preOrder low]
  exact ⟨_, rfl⟩

theorem runs_outcome (p : Planner) (source target : Environment) (order : CopyOrder)
    (nonempty : ∀ piece ∈ pieces, piece ≠ []) (some : pieces.flatten.map (·.1) ≠ []) :
    CopiedOutcome p.maxDepth source (pieces.flatten.map (·.1))
      ((p.runsAnswer target order pieces).bind finishAnswer) := by
  rw [CopiedOutcome, if_neg some]
  split
  · rename_i deep
    obtain ⟨b, first, failed⟩ := runsAnswer_of_deep (lt_heightOfAll_iff.mpr deep) target order
    exact ⟨b, first, by rw [failed]; rfl⟩
  · rename_i shallow
    have low := Nat.le_of_not_lt fun high => shallow (lt_heightOfAll_iff.mp high)
    obtain ⟨requests, answered⟩ := exists_runsAnswer low target order
    have asked := Requests.of_runsAnswer nonempty answered
    rw [answered, Except.bind, finishAnswer]
    split
    · rename_i bare
      rw [if_pos (by simpa using asked.eq_nil_iff.mpr bare)]
    · rename_i deployable
      have planned : requests ≠ [] := fun empty => deployable (asked.eq_nil_iff.mp empty)
      rw [if_neg (by simpa using planned)]
      exact ⟨requests, rfl, planned, asked.components_ne_nil⟩

theorem joinedAnswer_outcome (p : Planner) (source target : Environment) (order : CopyOrder)
    (statuses : List BuildStatus) (ordered : List Component) :
    CopiedOutcome p.maxDepth source (ordered.filter fun b => statuses.any (·.component == b.name))
      (p.joinedAnswer source target order (joined statuses ordered)) := by
  have maximal := runs_maximal (·.2.buildNumber) (joined statuses ordered)
  rw [← joined_components, joinedAnswer]
  by_cases none : joined statuses ordered = []
  · rw [none, CopiedOutcome]
    exact if_pos rfl
  · rw [if_neg (by simpa using none)]
    have outcome := runs_outcome p source target order maximal.ne_nil
      (by rw [maximal.flatten_eq]; simpa using none)
    rw [maximal.flatten_eq] at outcome
    exact outcome

section Catalog

variable (c : Catalog) (d : Dependencies) (limit : Nat)

theorem project_eq (name : String) :
    (c.plannerWithin d limit).project name =
      match c.projects.lookup name with
      | some found => .ok found
      | none => .error (.projectNotFound name) := by
  have read : (c.plannerWithin d limit).projects.project name = .ok (c.projects.lookup name) := rfl
  rw [project, read]
  cases c.projects.lookup name with
  | none => rfl
  | some found => rfl

theorem environment_eq (name : String) :
    (c.plannerWithin d limit).environment name =
      match c.environments.lookup name with
      | some found => .ok found
      | none => .error (.environmentNotFound name) := by
  have read : (c.plannerWithin d limit).environments.environment name =
      .ok (c.environments.lookup name) := rfl
  rw [environment, read]
  cases c.environments.lookup name with
  | none => rfl
  | some found => rfl

/-- The answer is the failure of the first step that does not end well, or a plan. -/
theorem copy_outcome {σ : Type} (order : CopyOrder) (s : σ) :
    CopyOutcome c d limit order
      (((c.plannerWithin d limit).plan order).run s).result := by
  rw [CopyOutcome, result_plan, project_eq, environment_eq, environment_eq]
  cases c.projects.lookup order.project with
  | none => rfl
  | some project =>
    cases c.environments.lookup order.source with
    | none => rfl
    | some source =>
      cases c.environments.lookup order.target with
      | none => rfl
      | some target =>
        refine ⟨_, selection_outcome c d limit project order.selected, ?_⟩
        simp only [Bind.bind, Except.bind]
        cases (c.plannerWithin d limit).selectionAnswer project order.selected with
        | error e => rfl
        | ok ordered => exact joinedAnswer_outcome _ source target order _ ordered

end Catalog

end Planner

end DeployPlan
