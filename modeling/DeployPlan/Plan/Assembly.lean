import DeployPlan.Act
import DeployPlan.Plan.Request
import DeployPlan.Runs
import DeployPlan.Stores

/-!
Planning. To copy an environment, the selected components are put in order, joined with the builds
that the source environment runs, and cut into runs of equal build number; each run becomes one
request. To deploy a given build, all selected components go into one request.
-/

namespace DeployPlan

structure Planner where
  projects : ProjectStore
  environments : EnvironmentStore
  ordering : OrderingProvider
  maxDepth : Nat := Component.defaultMaxDepth

/-- The status recorded last for a component. -/
def lastStatus? (statuses : List BuildStatus) (component : String) : Option BuildStatus :=
  statuses.reverse.find? (·.component == component)

def BuildStatus.build (s : BuildStatus) : BuildDetail where
  buildId := none
  buildNumber := s.buildNumber
  dropLocation := s.dropLocation
  project := s.project
  uri := s.uri

namespace Planner

variable {σ : Type}

def project (p : Planner) (name : String) : Except Failure Project := do
  match ← p.projects.project name with
  | some found => return found
  | none => throw (.projectNotFound name)

def environment (p : Planner) (name : String) : Except Failure Environment := do
  match ← p.environments.environment name with
  | some found => return found
  | none => throw (.environmentNotFound name)

def checkMembers (p : Planner) (project : Project) (roots : List Component) :
    List String → Except Failure Unit
  | [] => .ok ()
  | name :: names => do
    if ← Component.contains p.maxDepth name roots then
      checkMembers p project roots names
    else
      match ← p.projects.component name with
      | some _ => throw (.invalid (.foreignComponent name project.name))
      | none => throw (.componentNotFound name)

/-- The selected components in the order of deployment. An empty selection stands for all roots. -/
def orderedSelection (p : Planner) (project : Project) (selected : List String) :
    Act σ (List Component) := do
  let roots ← Act.ofExcept (p.projects.roots project.id)
  let names := nameSet selected
  if names.isEmpty then
    let all := nameSet (roots.map (·.name))
    Act.report (.wholeProject all.length)
    Act.ofExcept (p.ordering project all)
  else
    Act.ofExcept (p.checkMembers project roots names)
    Act.ofExcept (p.ordering project names)

/-- One request for these components; none when nothing below them is deployable. -/
def assemble (p : Planner) (target : Environment) (components : List Component)
    (build : BuildDetail) (skip : List String) (overrides : List Property) :
    Act σ (Option DeploymentRequest) := do
  let names ← Act.ofExcept (Component.deployableNames p.maxDepth components)
  if names.isEmpty then
    Act.report (.nothingDeployable build.buildNumber)
    return none
  else
    Act.report (.assembled build.buildNumber names.length)
    return some {
      environment := target.name
      components := names
      componentsToSkip := names.filter skip.contains
      build := build
      properties := overrides }

/-- Pairs components with their last status. Those without one are reported and left out. -/
def join (statuses : List BuildStatus) : List Component → Act σ (List (Component × BuildStatus))
  | [] => return []
  | c :: cs => do
    match lastStatus? statuses c.name with
    | some s => return (c, s) :: (← join statuses cs)
    | none =>
      Act.report (.noStatus c.name)
      join statuses cs

def assembleRuns (p : Planner) (target : Environment) (order : CopyOrder) :
    List (String × List (Component × BuildStatus)) → Act σ (List DeploymentRequest)
  | [] => return []
  | (_, []) :: rest => assembleRuns p target order rest
  | (_, (c, s) :: more) :: rest => do
    let request? ←
      p.assemble target (c :: more.map (·.1)) s.build order.skip order.overrides
    let requests ← assembleRuns p target order rest
    return request?.toList ++ requests

/-- A plan has at least one request. -/
def finish (requests : List DeploymentRequest) : Act σ (List DeploymentRequest) := do
  if requests.isEmpty then Act.fail .noRequestsProduced
  else
    Act.report (.planned requests.length)
    return requests

def plan (p : Planner) (order : CopyOrder) : Act σ (List DeploymentRequest) := do
  let project ← Act.ofExcept (p.project order.project)
  let source ← Act.ofExcept (p.environment order.source)
  let target ← Act.ofExcept (p.environment order.target)
  let ordered ← p.orderedSelection project order.selected
  let statuses ← Act.ofExcept (p.environments.statuses source.id)
  let joined ← join statuses ordered
  if joined.isEmpty then Act.fail (.noBuildFound source.name)
  else
    let requests ← p.assembleRuns target order (runs (·.2.buildNumber) joined)
    finish requests

def planBuild (p : Planner) (order : BuildOrder)
    (resolve : ArtifactSettings → BuildReference → Act σ BuildDetail) :
    Act σ (List DeploymentRequest) := do
  let project ← Act.ofExcept (p.project order.project)
  let target ← Act.ofExcept (p.environment order.target)
  let ordered ← p.orderedSelection project order.selected
  let build ← resolve project.artifact order.build
  let request? ← p.assemble target ordered build order.skip order.overrides
  finish request?.toList

end Planner

end DeployPlan
