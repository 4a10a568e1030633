import Mathlib
import DeployPlan.Build.Resolver
import DeployPlan.Build.Scripted
import DeployPlan.Proofs.Ordering.Stability
import DeployPlan.Proofs.Plan.Outcome

/-!
Deploying a build. The build is looked for once the wanted components are in order, and not before; what
fails earlier has asked nothing of the build system. The build then goes to all wanted components in one
request, and where these are the whole project, the request leaves nothing out.
-/

namespace DeployPlan

open Component

open Classical in
def DeployedOutcome (limit : Nat) (target : Environment) (order : BuildOrder)
    (ordered : List Component) (build : BuildDetail)
    (answer : Except Failure (List DeploymentRequest)) : Prop :=
  if ∃ b ∈ ordered, limit < height b then
    ∃ b, FirstAtDepth (limit + 1) ordered b ∧ answer = .error (.treeTooDeep b.name limit)
  else if ¬ ∃ b ∈ ordered, ∃ a : Component, a.LiesIn b ∧ a.deployable = true then
    answer = .error .noRequestsProduced
  else ∃ names, deployableNames limit ordered = .ok names ∧ names ≠ [] ∧
    answer = .ok [{
      environment := target.name
      components := names
      componentsToSkip := names.filter (· ∈ order.skip)
      build := build
      properties := order.overrides }]

/-- How the deployment of a build ends, and in which state it leaves the build system. -/
def BuildOutcome {σ : Type} (c : Catalog) (d : Dependencies) (limit : Nat) (order : BuildOrder)
    (r : Resolver σ) (s : σ) (outcome : Outcome σ (List DeploymentRequest)) : Prop :=
  match c.projects.lookup order.project, c.environments.lookup order.target with
  | none, _ => outcome.result = .error (.projectNotFound order.project) ∧ outcome.state = s
  | some _, none => outcome.result = .error (.environmentNotFound order.target) ∧ outcome.state = s
  | some project, some target =>
    ∃ selection, SelectionOutcome c d limit project order.selected selection ∧
      match selection with
      | .error e => outcome.result = .error e ∧ outcome.state = s
      | .ok ordered =>
        let resolved := (r.resolve project.artifact order.build).run s
        outcome.state = resolved.state ∧
          match resolved.result with
          | .error e => outcome.result = .error e
          | .ok build => DeployedOutcome limit target order ordered build outcome.result

/-- Names that deploy the whole of a forest. -/
structure Covers (d : Dependencies) (limit : Nat) (roots : List Component) (names : List String) :
    Prop where
  complete : ∀ a ∈ preOrder roots, a.deployable = true → a.name ∈ names
  rearranged : ∃ declared, deployableNames limit roots = .ok declared ∧ names.Perm declared
  in_order : d.Settled roots → deployableNames limit roots = .ok names

theorem Resolver.resolve_of_fileShare {σ : Type} (r : Resolver σ) {a : ArtifactSettings}
    (share : a.source = .fileShare) (ref : BuildReference) (s : σ) :
    (r.resolve a ref).run s = ⟨.ok ref.onFileShare, s,
      [.resolved ref.onFileShare.buildNumber ref.onFileShare.dropLocation]⟩ := by
  unfold resolve resolveUntil
  simp only [share]
  rfl

namespace Planner

theorem deployed_outcome (p : Planner) (target : Environment) (order : BuildOrder)
    (ordered : List Component) (build : BuildDetail) :
    DeployedOutcome p.maxDepth target order ordered build
      ((p.assembleAnswer target ordered build order.skip order.overrides).bind fun request? =>
        finishAnswer request?.toList) := by
  rw [DeployedOutcome, assembleAnswer]
  split
  · rename_i deep
    obtain ⟨b, first, failed⟩ := deployableNames_of_deep (lt_heightOfAll_iff.mpr deep)
    exact ⟨b, first, by rw [failed]; rfl⟩
  · rename_i shallow
    have low := Nat.le_of_not_lt fun high => shallow (lt_heightOfAll_iff.mp high)
    rw [deployableNames_of_low low]
    split
    · rename_i bare
      rw [deployed_eq_nil_iff.mpr bare]
      rfl
    · rename_i deployable
      have some : (deployed ordered).eraseDups ≠ [] := fun none =>
        deployable (deployed_eq_nil_iff.mp (eraseDups_eq_nil_iff.mp none))
      refine ⟨_, rfl, some, ?_⟩
      simp only [Except.map, Except.bind, List.isEmpty_iff, if_neg some, requestFor_eq]
      rfl

theorem Selection.covers {d : Dependencies} {projects : ProjectStore}
    {environments : EnvironmentStore} {limit : Nat} {name : String} {selected names : List String}
    (r : (d.planner projects environments limit).Selection name selected) (empty : selected = [])
    (distinct : DistinctNames r.roots) (flattened : deployableNames limit r.ordered = .ok names) :
    Covers d limit r.roots names := by
  have top : ∀ n, n ∈ wanted r.roots selected ↔ n ∈ r.roots.map (·.name) := fun n =>
    mem_wanted_of_empty empty
  -- Nothing selected: the roots are ordered as they are, with all that is below them.
  have sameTrees := r.arranged.perm_roots distinct top
  have perm := deployed_perm sameTrees
  have once := distinct.nodup_deployed
  have same : names = deployed r.ordered :=
    (eq_of_deployableNames flattened).trans (eraseDups_of_nodup (perm.nodup_iff.mpr once))
  have low : heightOfAll r.roots ≤ limit := by
    refine Nat.le_trans (heightOfAll_le_of_subset fun b root => ?_)
      (heightOfAll_le_of_deployableNames flattened)
    exact mem_preOrder_of_mem (sameTrees.mem_iff.mpr root)
  have declared : deployableNames limit r.roots = .ok (deployed r.roots) := by
    rw [deployableNames_of_low low, eraseDups_of_nodup once]
  refine ⟨?_, ⟨_, declared, same ▸ perm⟩, ?_⟩
  · intro a member deployable
    rw [same, perm.mem_iff]
    exact mem_deployed_iff.mpr ⟨a, member, deployable, rfl⟩
  · intro settled
    have kept := Dependencies.ordering_roots r.order_given r.roots_read distinct top settled
    rw [declared, same, kept]

variable {σ : Type} (c : Catalog) (d : Dependencies) (limit : Nat)

theorem covers_of_planBuild {order : BuildOrder} {project : Project}
    {resolve : ArtifactSettings → BuildReference → Act σ BuildDetail} {s : σ}
    {requests : List DeploymentRequest}
    (found : c.projects.lookup order.project = some project) (empty : order.selected = [])
    (distinct : DistinctNames (c.roots project.id))
    (planned : (((c.plannerWithin d limit).planBuild order resolve).run s).result = .ok requests) :
    ∃ request, requests = [request] ∧ Covers d limit (c.roots project.id) request.components := by
  obtain ⟨r, build, request, assembled, rfl⟩ := exists_buildReading planned
  have same : project = r.project :=
    Option.some.inj (found.symm.trans (Except.ok.inj r.project_found))
  have read : c.roots project.id = r.roots := same ▸ Except.ok.inj r.roots_read
  rw [read] at distinct ⊢
  obtain ⟨names, flattened, rfl⟩ := assembleAnswer_eq_some assembled
  exact ⟨_, rfl, r.toSelection.covers empty distinct flattened⟩

/-- Deploying a build fails before it asks for the build, fails with the search for it, or deploys the
build it was given. The whole project is deployed without loss. -/
theorem build_outcome (order : BuildOrder) (r : Resolver σ) (s : σ) :
    let outcome := ((c.plannerWithin d limit).planBuild order r.resolve).run s
    BuildOutcome c d limit order r s outcome ∧
    ∀ project requests, c.projects.lookup order.project = some project → order.selected = [] →
      DistinctNames (c.roots project.id) → outcome.result = .ok requests →
      ∃ request, requests = [request] ∧ Covers d limit (c.roots project.id) request.components := by
  intro outcome
  refine ⟨?_, fun project requests found empty distinct planned =>
    covers_of_planBuild c d limit found empty distinct planned⟩
  rw [BuildOutcome, result_planBuild, state_planBuild, project_eq, environment_eq]
  cases c.projects.lookup order.project with
  | none => exact ⟨rfl, rfl⟩
  | some project =>
    cases c.environments.lookup order.target with
    | none => exact ⟨rfl, rfl⟩
    | some target =>
      refine ⟨_, selection_outcome c d limit project order.selected, ?_⟩
      simp only [Bind.bind, Except.bind]
      cases (c.plannerWithin d limit).selectionAnswer project order.selected with
      | error e => exact ⟨rfl, rfl⟩
      | ok ordered =>
        refine ⟨rfl, ?_⟩
        simp only
        cases ((r.resolve project.artifact order.build).run s).result with
        | error e => rfl
        | ok build => exact deployed_outcome (c.plannerWithin d limit) target order ordered build

def reordered : List Component :=
  [folder "Web" [leaf "Site" "site.sh", leaf "API" "api.sh"], leaf "DB" "db.sh"]

def reorderedPlanner : Planner :=
  (Catalog.single reordered []).plannerWithin ⟨[("Web", "DB")]⟩ 2

def reorderedFor (target : String) : BuildOrder where
  project := "Payments"
  target := target
  build := ⟨"", "/drops/web/1.0"⟩

def scriptedResolver : Resolver ScriptedBuilds := ⟨ScriptedBuilds.service, none⟩

def reorderedOutcome (target : String) : Outcome ScriptedBuilds (List DeploymentRequest) :=
  (reorderedPlanner.planBuild (reorderedFor target) scriptedResolver.resolve).run {}

theorem reorderedOutcome_planned : (reorderedOutcome "UAT").result = .ok [requestFor
    { id := 2, name := "UAT" } ⟨none, "1.0", "/drops/web/1.0", "", "/drops/web/1.0"⟩ [] []
    ["DB", "Site", "API"]] := by
  have found : reorderedPlanner.project "Payments" = .ok payments := rfl
  have target : reorderedPlanner.environment "UAT" = .ok { id := 2, name := "UAT" } := rfl
  have ordered : reorderedPlanner.selectionAnswer payments [] = .ok [leaf "DB" "db.sh",
      folder "Web" [leaf "Site" "site.sh", leaf "API" "api.sh"]] := by cbv
  have share : payments.artifact.source = .fileShare := by decide
  simp only [reorderedOutcome, result_planBuild, reorderedFor, found, target, ordered,
    scriptedResolver.resolve_of_fileShare share, Bind.bind, Except.bind]
  cbv

theorem build_outcome_reordered :
    (reorderedOutcome "PROD").result = .error (.environmentNotFound "PROD") ∧
    (reorderedOutcome "PROD").state.calls = [] ∧ DistinctNames reordered ∧
    ∃ request, (reorderedOutcome "UAT").result = .ok [request] ∧
      request.components = ["DB", "Site", "API"] ∧
      Covers ⟨[("Web", "DB")]⟩ 2 reordered request.components := by
  have distinct : DistinctNames reordered := by
    simp [DistinctNames, reordered, preOrder_cons, leaf, folder]
  obtain ⟨⟨refused, untouched⟩, -⟩ := build_outcome (Catalog.single reordered [])
    ⟨[("Web", "DB")]⟩ 2 (reorderedFor "PROD") scriptedResolver {}
  obtain ⟨-, covered⟩ := build_outcome (Catalog.single reordered [])
    ⟨[("Web", "DB")]⟩ 2 (reorderedFor "UAT") scriptedResolver {}
  obtain ⟨request, one, covers⟩ := covered payments _ rfl rfl distinct reorderedOutcome_planned
  cases one
  exact ⟨refused, congrArg ScriptedBuilds.calls untouched, distinct, _, reorderedOutcome_planned,
    rfl, covers⟩

end Planner

end DeployPlan
