import Mathlib
import DeployPlan.Proofs.Build.Offer
import DeployPlan.Proofs.Plan.Reading
import DeployPlan.Proofs.Plan.Requests

/-!
Which build a deployment takes. The builds that an environment accepts are told apart where they are
listed for it; where one is deployed to it, nobody looks at what the environment accepts. The first
build that bears the locator is taken.
-/

namespace DeployPlan

def Environment.reflagged (e : Environment) (production secure : Environment → Bool) : Environment :=
  { e with production := production e, secure := secure e }

def EnvironmentStore.reflagged (store : EnvironmentStore) (production secure : Environment → Bool) :
    EnvironmentStore where
  environment name :=
    (store.environment name).map fun found? => found?.map (·.reflagged production secure)
  statuses := store.statuses

theorem Act.ofExcept_map_bind {σ α β γ : Type} (x : Except Failure α) (f : α → β)
    (next : β → Act σ γ) :
    (Act.ofExcept (x.map f) >>= next) = (Act.ofExcept x >>= fun a => next (f a)) := by
  cases x <;> rfl

namespace Planner

variable {σ : Type} (p : Planner) (production secure : Environment → Bool)

def reflagged : Planner :=
  { p with environments := p.environments.reflagged production secure }

theorem environment_reflagged (name : String) :
    (p.reflagged production secure).environment name =
      (p.environment name).map (·.reflagged production secure) := by
  have read : (p.reflagged production secure).environments.environment name =
      (p.environments.environment name).map fun found? =>
        found?.map (·.reflagged production secure) := rfl
  rw [environment, environment, read]
  cases p.environments.environment name with
  | error e => rfl
  | ok found? => cases found? <;> rfl

theorem checkMembers_reflagged (project : Project) (roots : List Component) (names : List String) :
    (p.reflagged production secure).checkMembers project roots names =
      p.checkMembers project roots names := by
  induction names with
  | nil => rfl
  | cons name names ih =>
    rw [checkMembers, checkMembers, ih]
    rfl

theorem orderedSelection_reflagged (project : Project) (selected : List String) :
    ((p.reflagged production secure).orderedSelection project selected : Act σ _) =
      p.orderedSelection project selected := by
  unfold orderedSelection
  simp only [checkMembers_reflagged]
  rfl

theorem assemble_reflagged (target : Environment) (components : List Component) (build : BuildDetail)
    (skip : List String) (overrides : List Property) :
    ((p.reflagged production secure).assemble (target.reflagged production secure) components build
      skip overrides : Act σ _) = p.assemble target components build skip overrides := rfl

theorem planBuild_reflagged (order : BuildOrder)
    (resolve : ArtifactSettings → BuildReference → Act σ BuildDetail) :
    (p.reflagged production secure).planBuild order resolve = p.planBuild order resolve := by
  unfold planBuild
  refine congrArg (_ >>= ·) (funext fun project => ?_)
  rw [environment_reflagged, Act.ofExcept_map_bind]
  simp only [orderedSelection_reflagged, assemble_reflagged]

variable {p}

/-- A build deployed from a build system is the first one that bears the locator, whether it is
among the candidates for the environment or not. -/
theorem planBuild_takes_first (r : Resolver σ) {order : BuildOrder} {project : Project} {s : σ}
    {requests : List DeploymentRequest}
    (found : p.projects.project order.project = .ok (some project))
    (remote : project.artifact.source = .buildSystem)
    (planned : ((p.planBuild order r.resolve).run s).result = .ok requests) :
    (∀ production secure : Environment → Bool,
      (p.reflagged production secure).planBuild order r.resolve = p.planBuild order r.resolve) ∧
    ∃ target, p.environments.environment order.target = .ok (some target) ∧
      ∃ (o : Offer r.service project.artifact order.build.label s) (selected : Build)
        (artifact : BuildArtifact) (request : DeploymentRequest),
        FirstWith (·.Bears order.build.locator) o.builds selected ∧
        requests = [request] ∧ request.environment = target.name ∧
        request.build = selected.detail o.definition artifact ∧
        (selected.candidate ∈ candidatesFor o.builds target ↔
          (target.requiresPinnedBuilds = true → selected.keepForever = true)) := by
  refine ⟨fun production secure => p.planBuild_reflagged production secure order r.resolve, ?_⟩
  obtain ⟨reading, build, request, resolved, assembled, rfl⟩ := exists_resolvedReading planned
  cases found.symm.trans reading.project_found
  obtain ⟨search, rfl⟩ := Resolver.exists_resolution remote resolved
  obtain ⟨o, same, first⟩ := search.exists_offer
  obtain ⟨names, -, rfl⟩ := assembleAnswer_eq_some assembled
  refine ⟨reading.target, reading.target_found, o, search.build, search.artifact, _, first, rfl, rfl,
    ?_, ?_⟩
  · rw [same]
    rfl
  · rw [mem_candidatesFor]
    constructor
    · rintro ⟨b, -, accepted, candidate⟩ pinned
      have kept : b.keepForever = search.build.keepForever := congrArg BuildCandidate.pinned candidate
      rw [← kept]
      exact accepted pinned
    · intro accepted
      exact ⟨search.build, first.holds.1, accepted, rfl⟩

def livePlanner : Planner :=
  ((({} : Catalog).addProject ⟨1, "Payments", Resolver.mainCollection⟩
    [Component.leaf "Site" "site.sh"]).addEnvironment liveEnvironment).planner {}

def unkeptOrder : BuildOrder where
  project := "Payments"
  target := "PROD"
  build := ⟨"Payments; CI", "1.0"⟩

def unkeptRequest : DeploymentRequest where
  environment := "PROD"
  components := ["Site"]
  build := ⟨some 1, "1.0", "https://tfs/drop", "Payments", ""⟩

theorem livePlanner_project : livePlanner.projects.project unkeptOrder.project =
    .ok (some ⟨1, "Payments", Resolver.mainCollection⟩) := by decide +kernel

theorem livePlanner_environment : livePlanner.environments.environment unkeptOrder.target =
    .ok (some liveEnvironment) := by decide +kernel

theorem unkept_planned :
    ((livePlanner.planBuild unkeptOrder (⟨ScriptedBuilds.service, none⟩ : Resolver _).resolve).run
      (.offering Resolver.releases)).result = .ok [unkeptRequest] := by
  decide +kernel

theorem not_kept : ∀ b ∈ Resolver.releases, b.number = "1.0" → b.keepForever = false := by decide

theorem planBuild_takes_first_unkept :
    ∃ (o : Offer ScriptedBuilds.service Resolver.mainCollection "Payments; CI"
      (.offering Resolver.releases)) (selected : Build),
      FirstWith (·.Bears "1.0") o.builds selected ∧
      selected.candidate ∉ candidatesFor o.builds liveEnvironment := by
  obtain ⟨-, target, read, o, selected, artifact, request, first, one, -, build, offered⟩ :=
    planBuild_takes_first ⟨ScriptedBuilds.service, none⟩ livePlanner_project
      Resolver.mainCollection_remote unkept_planned
  cases livePlanner_environment.symm.trans read
  cases one
  refine ⟨o, selected, first, fun member => ?_⟩
  have calm : (ScriptedBuilds.offering Resolver.releases).script.failures = [] := rfl
  have listed := (ScriptedBuilds.offered_sublist calm o).subset first.holds.1
  have number : selected.number = "1.0" := (congrArg BuildDetail.buildNumber build).symm
  have kept : selected.keepForever = true := offered.mp member rfl
  rw [not_kept selected listed number] at kept
  cases kept

/-- A release that was not kept is deployed to production. -/
theorem unkept_deployed :
    liveEnvironment.requiresPinnedBuilds = true ∧
    livePlanner.environments.environment unkeptOrder.target = .ok (some liveEnvironment) ∧
    livePlanner.projects.project unkeptOrder.project =
      .ok (some ⟨1, "Payments", Resolver.mainCollection⟩) ∧
    Resolver.mainCollection.source = .buildSystem ∧
    ((livePlanner.planBuild unkeptOrder (⟨ScriptedBuilds.service, none⟩ : Resolver _).resolve).run
      (.offering Resolver.releases)).result = .ok [unkeptRequest] ∧
    unkeptRequest.build.buildNumber = "1.0" ∧
    ∀ b ∈ Resolver.releases, b.number = "1.0" → b.keepForever = false := by
  exact ⟨rfl, livePlanner_environment, livePlanner_project, Resolver.mainCollection_remote,
    unkept_planned, rfl, not_kept⟩

end Planner

end DeployPlan
