import Mathlib.Data.List.Basic
import DeployPlan.Plan.Assembly
import DeployPlan.Proofs.Steps

/-!
What planning answers, apart from the events it reports. No step looks at the state it is run in, so
each answer is a plain sequence of steps that may fail.
-/

namespace DeployPlan

/-- The record of `name` after which there is no other one. -/
def LastRecorded (statuses : List BuildStatus) (name : String) (status : BuildStatus) : Prop :=
  ∃ earlier later, statuses = earlier ++ status :: later ∧ status.component = name ∧
    ∀ other ∈ later, other.component ≠ name

theorem LastRecorded.mem {statuses : List BuildStatus} {name : String} {status : BuildStatus}
    (recorded : LastRecorded statuses name status) : status ∈ statuses := by
  obtain ⟨earlier, later, rfl, -⟩ := recorded
  simp

theorem lastStatus?_eq_some_iff {statuses : List BuildStatus} {name : String} {status : BuildStatus} :
    lastStatus? statuses name = some status ↔ LastRecorded statuses name status := by
  rw [lastStatus?, List.find?_eq_some_iff_append]
  constructor
  · rintro ⟨named, later, earlier, split, others⟩
    refine ⟨earlier.reverse, later.reverse, ?_, by simpa using named, ?_⟩
    · rw [← List.reverse_reverse statuses, split]
      simp
    · intro other member
      simpa using others other (List.mem_reverse.mp member)
  · rintro ⟨earlier, later, rfl, named, others⟩
    refine ⟨by simpa using named, later.reverse, earlier.reverse, by simp, ?_⟩
    intro other member
    simpa using others other (List.mem_reverse.mp member)

theorem LastRecorded.unique {statuses : List BuildStatus} {name : String} {a b : BuildStatus}
    (first : LastRecorded statuses name a) (second : LastRecorded statuses name b) : a = b := by
  rw [← lastStatus?_eq_some_iff] at first second
  exact Option.some.inj (first.symm.trans second)

namespace Planner

variable {σ : Type}

/-- Components with their last status; those without one are left out. -/
def joined (statuses : List BuildStatus) (ordered : List Component) :
    List (Component × BuildStatus) :=
  ordered.filterMap fun c => (lastStatus? statuses c.name).map (c, ·)

def wanted (roots : List Component) (selected : List String) : List String :=
  if (nameSet selected).isEmpty then nameSet (roots.map (·.name)) else nameSet selected

/-- The wanted components in order, once all selected names are known to belong to the project. -/
def selectionAnswer (p : Planner) (project : Project) (selected : List String) :
    Except Failure (List Component) := do
  let roots ← p.projects.roots project.id
  if (nameSet selected).isEmpty then p.ordering project (wanted roots selected)
  else
    p.checkMembers project roots (nameSet selected)
    p.ordering project (wanted roots selected)

def requestFor (target : Environment) (build : BuildDetail) (skip : List String)
    (overrides : List Property) (names : List String) : DeploymentRequest where
  environment := target.name
  components := names
  componentsToSkip := names.filter skip.contains
  build := build
  properties := overrides

theorem requestFor_eq (target : Environment) (build : BuildDetail) (skip : List String)
    (overrides : List Property) (names : List String) :
    requestFor target build skip overrides names = {
      environment := target.name
      components := names
      componentsToSkip := names.filter (· ∈ skip)
      build := build
      properties := overrides } := by
  have skipped : skip.contains = fun n => decide (n ∈ skip) :=
    funext fun n => List.contains_eq_mem n skip
  rw [requestFor, skipped]

def assembleAnswer (p : Planner) (target : Environment) (components : List Component)
    (build : BuildDetail) (skip : List String) (overrides : List Property) :
    Except Failure (Option DeploymentRequest) :=
  (Component.deployableNames p.maxDepth components).map fun names =>
    if names.isEmpty then none else some (requestFor target build skip overrides names)

def runAnswer (p : Planner) (target : Environment) (order : CopyOrder) :
    List (Component × BuildStatus) → Except Failure (Option DeploymentRequest)
  | [] => .ok none
  | (c, status) :: more =>
    p.assembleAnswer target (c :: more.map (·.1)) status.build order.skip order.overrides

def runsAnswer (p : Planner) (target : Environment) (order : CopyOrder) :
    List (List (Component × BuildStatus)) → Except Failure (List DeploymentRequest)
  | [] => .ok []
  | run :: rest => do
    let request? ← p.runAnswer target order run
    let requests ← p.runsAnswer target order rest
    return request?.toList ++ requests

def finishAnswer (requests : List DeploymentRequest) : Except Failure (List DeploymentRequest) :=
  if requests.isEmpty then .error .noRequestsProduced else .ok requests

def joinedAnswer (p : Planner) (source target : Environment) (order : CopyOrder)
    (joined : List (Component × BuildStatus)) : Except Failure (List DeploymentRequest) :=
  if joined.isEmpty then .error (.noBuildFound source.name)
  else do
    let requests ← p.runsAnswer target order ((runs (·.2.buildNumber) joined).map (·.2))
    finishAnswer requests

theorem joinedAnswer_congr {p q : Planner} (bound : p.maxDepth = q.maxDepth)
    (source target : Environment) (order : CopyOrder) (joined : List (Component × BuildStatus)) :
    p.joinedAnswer source target order joined = q.joinedAnswer source target order joined := by
  have assembled : p.runAnswer target order = q.runAnswer target order := by
    funext run
    cases run with
    | nil => rfl
    | cons first more => rw [runAnswer, runAnswer, assembleAnswer, assembleAnswer, bound]
  have answered : ∀ runs, p.runsAnswer target order runs = q.runsAnswer target order runs := by
    intro runs
    induction runs with
    | nil => rfl
    | cons run runs ih => rw [runsAnswer, runsAnswer, assembled, ih]
  rw [joinedAnswer, joinedAnswer, answered]

theorem result_join (statuses : List BuildStatus) (ordered : List Component) (s : σ) :
    ((join statuses ordered).run s).result = .ok (joined statuses ordered) := by
  induction ordered generalizing s with
  | nil => rfl
  | cons c ordered ih =>
    rw [join, joined, List.filterMap_cons]
    cases lastStatus? statuses c.name with
    | some status =>
      simp only [Act.result_bind, ih]
      rfl
    | none =>
      simp only [Act.result_bind, ih]
      rfl

theorem result_orderedSelection (p : Planner) (project : Project) (selected : List String) (s : σ) :
    ((p.orderedSelection project selected).run s).result =
      p.selectionAnswer project selected := by
  simp only [orderedSelection, selectionAnswer, wanted, Act.result_bind, Act.result_ofExcept]
  refine congrArg _ (funext fun roots => ?_)
  split
  · simp only [Act.result_bind, Act.result_report, Act.result_ofExcept]
    rfl
  · simp only [Act.result_bind, Act.result_ofExcept]
    rfl

theorem result_assemble (p : Planner) (target : Environment) (components : List Component)
    (build : BuildDetail) (skip : List String) (overrides : List Property) (s : σ) :
    ((p.assemble target components build skip overrides).run s).result =
      p.assembleAnswer target components build skip overrides := by
  simp only [assemble, assembleAnswer, Act.result_bind, Act.result_ofExcept]
  cases Component.deployableNames p.maxDepth components with
  | error e => rfl
  | ok names =>
    simp only [Except.bind, Except.map]
    split
    · rfl
    · rfl

theorem result_assembleRuns (p : Planner) (target : Environment) (order : CopyOrder)
    (runs : List (String × List (Component × BuildStatus))) (s : σ) :
    ((p.assembleRuns target order runs).run s).result =
      p.runsAnswer target order (runs.map (·.2)) := by
  induction runs generalizing s with
  | nil => rfl
  | cons run runs ih =>
    obtain ⟨number, run⟩ := run
    cases run with
    | nil =>
      rw [assembleRuns, ih]
      simp only [List.map_cons, runsAnswer, runAnswer]
      cases p.runsAnswer target order (runs.map (·.2)) <;> rfl
    | cons first more =>
      obtain ⟨c, status⟩ := first
      simp only [assembleRuns, Act.result_bind, result_assemble, ih]
      rfl

theorem result_finish (requests : List DeploymentRequest) (s : σ) :
    ((finish requests).run s).result = finishAnswer requests := by
  rw [finish, finishAnswer]
  split
  · rfl
  · rfl

theorem result_plan (p : Planner) (order : CopyOrder) (s : σ) :
    ((p.plan order).run s).result = (do
      let project ← p.project order.project
      let source ← p.environment order.source
      let target ← p.environment order.target
      let ordered ← p.selectionAnswer project order.selected
      let statuses ← p.environments.statuses source.id
      p.joinedAnswer source target order (joined statuses ordered)) := by
  simp only [plan, Act.result_bind, Act.result_ofExcept, result_orderedSelection, result_join]
  refine congrArg _ (funext fun project => ?_)
  refine congrArg _ (funext fun source => ?_)
  refine congrArg _ (funext fun target => ?_)
  refine congrArg _ (funext fun ordered => ?_)
  refine congrArg _ (funext fun statuses => ?_)
  simp only [Except.bind, joinedAnswer]
  split
  · rfl
  · simp only [Act.result_bind, result_assembleRuns, result_finish]
    rfl

theorem state_orderedSelection (p : Planner) (project : Project) (selected : List String) (s : σ) :
    ((p.orderedSelection project selected).run s).state = s := by
  rw [orderedSelection, Act.state_bind, Act.result_ofExcept]
  cases p.projects.roots project.id with
  | error e => rfl
  | ok roots =>
    dsimp only [Act.state_ofExcept]
    split
    · simp only [Act.state_bind, Act.result_report, Act.state_report, Act.state_ofExcept]
    · simp only [Act.state_bind, Act.result_ofExcept, Act.state_ofExcept]
      split <;> rfl

theorem state_assemble (p : Planner) (target : Environment) (components : List Component)
    (build : BuildDetail) (skip : List String) (overrides : List Property) (s : σ) :
    ((p.assemble target components build skip overrides).run s).state = s := by
  rw [assemble, Act.state_bind, Act.result_ofExcept]
  cases Component.deployableNames p.maxDepth components with
  | error e => rfl
  | ok names =>
    dsimp only [Act.state_ofExcept]
    split
    · rfl
    · rfl

theorem state_finish (requests : List DeploymentRequest) (s : σ) :
    ((finish requests).run s).state = s := by
  rw [finish]
  split
  · rfl
  · rfl

theorem result_planBuild (p : Planner) (order : BuildOrder)
    (resolve : ArtifactSettings → BuildReference → Act σ BuildDetail) (s : σ) :
    ((p.planBuild order resolve).run s).result = (do
      let project ← p.project order.project
      let target ← p.environment order.target
      let ordered ← p.selectionAnswer project order.selected
      let build ← ((resolve project.artifact order.build).run s).result
      let request? ← p.assembleAnswer target ordered build order.skip order.overrides
      finishAnswer request?.toList) := by
  simp only [planBuild, Act.result_bind, Act.result_ofExcept, Act.state_ofExcept,
    result_orderedSelection, state_orderedSelection, result_assemble, result_finish]
  rfl

theorem state_planBuild (p : Planner) (order : BuildOrder)
    (resolve : ArtifactSettings → BuildReference → Act σ BuildDetail) (s : σ) :
    ((p.planBuild order resolve).run s).state =
      match (do
        let project ← p.project order.project
        let _ ← p.environment order.target
        let _ ← p.selectionAnswer project order.selected
        return project : Except Failure Project) with
      | .ok project => ((resolve project.artifact order.build).run s).state
      | .error _ => s := by
  -- The resolver alone touches the state, and it is asked after everything that can fail before.
  simp only [planBuild, Act.state_bind, Act.result_ofExcept, Act.state_ofExcept,
    result_orderedSelection, state_orderedSelection, result_assemble, state_assemble, state_finish]
  cases p.project order.project with
  | error e => rfl
  | ok project =>
    cases p.environment order.target with
    | error e => rfl
    | ok target =>
      simp only [Bind.bind, Except.bind]
      cases p.selectionAnswer project order.selected with
      | error e => rfl
      | ok ordered =>
        simp only
        cases ((resolve project.artifact order.build).run s).result with
        | error e => rfl
        | ok build =>
          simp only
          cases p.assembleAnswer target ordered build order.skip order.overrides <;> rfl

end Planner

end DeployPlan
