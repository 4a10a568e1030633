import DeployPlan.Catalog
import DeployPlan.Proofs.Ordering
import DeployPlan.Proofs.Plan.Answer

/-!
What planning reads. A plan that is made has found its project and its environments, and was given an
order of the wanted components; these are kept together with the reads that gave them.
-/

namespace DeployPlan

def Dependencies.planner (d : Dependencies) (projects : ProjectStore)
    (environments : EnvironmentStore) (maxDepth : Nat) : Planner where
  projects := projects
  environments := environments
  ordering := d.ordering projects
  maxDepth := maxDepth

def Catalog.planner (c : Catalog) (d : Dependencies) : Planner :=
  d.planner c.projectStore c.environmentStore Component.defaultMaxDepth

abbrev Catalog.plannerWithin (c : Catalog) (d : Dependencies) (limit : Nat) : Planner :=
  d.planner c.projectStore c.environmentStore limit

/-- One project with this forest, an environment with these records, and an empty one. -/
def Catalog.single (roots : List Component) (statuses : List BuildStatus) : Catalog :=
  (({} : Catalog).addProject ⟨1, "Payments", { url := "file:///drops" }⟩ roots
    |>.addEnvironment { id := 1, name := "DEV" }
    |>.addEnvironment { id := 2, name := "UAT" }
    |>.setStatuses 1 statuses)

def CopyOrder.ofNames (selected : List String) : CopyOrder where
  project := "Payments"
  source := "DEV"
  target := "UAT"
  selected := selected

namespace Planner

variable {σ : Type}

structure Selection (p : Planner) (name : String) (selected : List String) where
  project : Project
  roots : List Component
  ordered : List Component
  project_found : p.projects.project name = .ok (some project)
  roots_read : p.projects.roots project.id = .ok roots
  order_given : p.ordering project (wanted roots selected) = .ok ordered

structure CopyReading (p : Planner) (order : CopyOrder) extends
    Selection p order.project order.selected where
  source : Environment
  target : Environment
  statuses : List BuildStatus
  source_found : p.environments.environment order.source = .ok (some source)
  target_found : p.environments.environment order.target = .ok (some target)
  statuses_read : p.environments.statuses source.id = .ok statuses

structure BuildReading (p : Planner) (order : BuildOrder) extends
    Selection p order.project order.selected where
  target : Environment
  target_found : p.environments.environment order.target = .ok (some target)

theorem Selection.roots_single {roots : List Component} {statuses : List BuildStatus}
    {d : Dependencies} {selected : List String}
    (r : ((Catalog.single roots statuses).planner d).Selection "Payments" selected) :
    r.roots = roots := by
  obtain ⟨project, read, ordered, project_found, roots_read, order_given⟩ := r
  have found : ((Catalog.single roots statuses).planner d).projects.project "Payments" =
      .ok (some ⟨1, "Payments", { url := "file:///drops" }⟩) := rfl
  cases found.symm.trans project_found
  cases roots_read
  rfl

theorem mem_wanted_of_empty {roots : List Component} {selected : List String} {n : String}
    (empty : selected = []) : n ∈ wanted roots selected ↔ n ∈ roots.map (·.name) := by
  rw [empty, wanted, if_pos (by simp [nameSet]), mem_nameSet]

namespace Selection

variable {d : Dependencies} {projects : ProjectStore} {environments : EnvironmentStore}
  {limit : Nat} {name : String} {selected : List String}

theorem arranged (r : (d.planner projects environments limit).Selection name selected) :
    d.Ordered r.roots (wanted r.roots selected) r.ordered :=
  Dependencies.ordering_spec r.order_given r.roots_read

theorem flat_of_empty (r : (d.planner projects environments limit).Selection name selected)
    (empty : selected = []) (distinct : Component.DistinctNames r.roots) :
    Component.Flat r.ordered := by
  have root : ∀ c ∈ r.ordered, c ∈ r.roots := fun c =>
    r.arranged.mem_roots distinct fun n => (mem_wanted_of_empty empty).mp
  intro a ha b hb inside
  exact Component.root_eq_of_liesIn distinct (root a ha) (root b hb) inside

end Selection

theorem found_eq_ok_iff {α : Type} {read : Except Failure (Option α)}
    {next : Option α → Except Failure α} (missing : ∀ a, next none ≠ .ok a)
    (found : ∀ a, next (some a) = .ok a) {a : α} :
    (read >>= next) = .ok a ↔ read = .ok (some a) := by
  rw [bind_eq_ok_iff]
  constructor
  · rintro ⟨found?, same, answered⟩
    cases found? with
    | none => exact absurd answered (missing a)
    | some b =>
      rw [found] at answered
      cases answered
      exact same
  · intro same
    exact ⟨some a, same, found a⟩

theorem project_eq_ok_iff {p : Planner} {name : String} {project : Project} :
    p.project name = .ok project ↔ p.projects.project name = .ok (some project) :=
  found_eq_ok_iff (fun _ impossible => by cases impossible) fun _ => rfl

theorem environment_eq_ok_iff {p : Planner} {name : String} {environment : Environment} :
    p.environment name = .ok environment ↔
      p.environments.environment name = .ok (some environment) :=
  found_eq_ok_iff (fun _ impossible => by cases impossible) fun _ => rfl

theorem selectionAnswer_eq_ok {p : Planner} {project : Project} {selected : List String}
    {ordered : List Component} (answered : p.selectionAnswer project selected = .ok ordered) :
    ∃ roots, p.projects.roots project.id = .ok roots ∧
      p.ordering project (wanted roots selected) = .ok ordered := by
  obtain ⟨roots, read, rest⟩ := bind_eq_ok_iff.mp answered
  refine ⟨roots, read, ?_⟩
  split at rest
  · exact rest
  · obtain ⟨_, _, given⟩ := bind_eq_ok_iff.mp rest
    exact given

theorem finishAnswer_eq_ok_iff {requests plan : List DeploymentRequest} :
    finishAnswer requests = .ok plan ↔ requests ≠ [] ∧ requests = plan := by
  rw [finishAnswer]
  cases requests with
  | nil => simp
  | cons request requests => simp

theorem exists_copyReading {p : Planner} {order : CopyOrder} {s : σ}
    {requests : List DeploymentRequest}
    (planned : ((p.plan order).run s).result = .ok requests) :
    ∃ r : p.CopyReading order, requests ≠ [] ∧
      p.runsAnswer r.target order
        ((runs (·.2.buildNumber) (joined r.statuses r.ordered)).map (·.2)) = .ok requests := by
  rw [result_plan] at planned
  obtain ⟨project, project_found, planned⟩ := bind_eq_ok_iff.mp planned
  obtain ⟨source, source_found, planned⟩ := bind_eq_ok_iff.mp planned
  obtain ⟨target, target_found, planned⟩ := bind_eq_ok_iff.mp planned
  obtain ⟨ordered, selection, planned⟩ := bind_eq_ok_iff.mp planned
  obtain ⟨statuses, statuses_read, planned⟩ := bind_eq_ok_iff.mp planned
  obtain ⟨roots, roots_read, order_given⟩ := selectionAnswer_eq_ok selection
  rw [joinedAnswer] at planned
  split at planned
  · cases planned
  · obtain ⟨_, answered, finished⟩ := bind_eq_ok_iff.mp planned
    obtain ⟨some, rfl⟩ := finishAnswer_eq_ok_iff.mp finished
    exact ⟨⟨⟨project, roots, ordered, project_eq_ok_iff.mp project_found, roots_read, order_given⟩,
      source, target, statuses, environment_eq_ok_iff.mp source_found,
      environment_eq_ok_iff.mp target_found, statuses_read⟩, some, answered⟩

theorem exists_resolvedReading {p : Planner} {order : BuildOrder}
    {resolve : ArtifactSettings → BuildReference → Act σ BuildDetail} {s : σ}
    {requests : List DeploymentRequest}
    (planned : ((p.planBuild order resolve).run s).result = .ok requests) :
    ∃ (r : p.BuildReading order) (build : BuildDetail) (request : DeploymentRequest),
      ((resolve r.project.artifact order.build).run s).result = .ok build ∧
      p.assembleAnswer r.target r.ordered build order.skip order.overrides = .ok (some request) ∧
      requests = [request] := by
  rw [result_planBuild] at planned
  obtain ⟨project, project_found, planned⟩ := bind_eq_ok_iff.mp planned
  obtain ⟨target, target_found, planned⟩ := bind_eq_ok_iff.mp planned
  obtain ⟨ordered, selection, planned⟩ := bind_eq_ok_iff.mp planned
  obtain ⟨build, resolved, planned⟩ := bind_eq_ok_iff.mp planned
  obtain ⟨request?, assembled, finished⟩ := bind_eq_ok_iff.mp planned
  obtain ⟨roots, roots_read, order_given⟩ := selectionAnswer_eq_ok selection
  obtain ⟨some, rfl⟩ := finishAnswer_eq_ok_iff.mp finished
  cases request? with
  | none => exact absurd rfl some
  | some request =>
    exact ⟨⟨⟨project, roots, ordered, project_eq_ok_iff.mp project_found, roots_read, order_given⟩,
      target, environment_eq_ok_iff.mp target_found⟩, build, request, resolved, assembled, rfl⟩

theorem exists_buildReading {p : Planner} {order : BuildOrder}
    {resolve : ArtifactSettings → BuildReference → Act σ BuildDetail} {s : σ}
    {requests : List DeploymentRequest}
    (planned : ((p.planBuild order resolve).run s).result = .ok requests) :
    ∃ (r : p.BuildReading order) (build : BuildDetail) (request : DeploymentRequest),
      p.assembleAnswer r.target r.ordered build order.skip order.overrides = .ok (some request) ∧
      requests = [request] := by
  obtain ⟨r, build, request, -, assembled, one⟩ := exists_resolvedReading planned
  exact ⟨r, build, request, assembled, one⟩

end Planner

end DeployPlan
