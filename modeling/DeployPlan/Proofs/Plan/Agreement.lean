import Mathlib
import DeployPlan.Build.Resolver
import DeployPlan.Proofs.Plan.Copying

/-!
Agreement. A copy cuts the wanted components into runs and flattens each run by itself; a build is
deployed to all of them at once. Where every component has a status, both deploy and skip the same
names in the same order of first occurrence, for the same environment and with the same settings.
-/

namespace DeployPlan

open Component

def CopyOrder.withBuild (order : CopyOrder) (build : BuildReference) : BuildOrder where
  project := order.project
  target := order.target
  build := build
  selected := order.selected
  skip := order.skip
  overrides := order.overrides

/-- One request does what the requests of a copy do, each name once. -/
structure Condenses (requests : List DeploymentRequest) (one : DeploymentRequest) : Prop where
  components_eq : one.components = (requests.flatMap (·.components)).eraseDups
  skipped_eq : one.componentsToSkip = (requests.flatMap (·.componentsToSkip)).eraseDups
  alike : ∀ r ∈ requests, r.environment = one.environment ∧ r.properties = one.properties

namespace Requests

variable {limit : Nat} {target : Environment} {order : CopyOrder}
  {pieces : List (List (Component × BuildStatus))} {requests : List DeploymentRequest}

theorem flatMap_skipped (h : Requests limit target order pieces requests) :
    requests.flatMap (·.componentsToSkip) =
      (requests.flatMap (·.components)).filter (· ∈ order.skip) := by
  induction h with
  | nil => rfl
  | dropped _ _ ih => exact ih
  | kept _ _ _ _ ih => rw [List.flatMap_cons, List.flatMap_cons, List.filter_append, ih]

theorem alike (h : Requests limit target order pieces requests) :
    ∀ r ∈ requests, r.environment = target.name ∧ r.properties = order.overrides := by
  induction h with
  | nil => simp
  | dropped _ _ ih => exact ih
  | kept _ _ _ _ ih => exact List.forall_mem_cons.mpr ⟨⟨rfl, rfl⟩, ih⟩

end Requests

namespace Planner

theorem Selection.unique {p : Planner} {name : String} {selected : List String}
    (a b : p.Selection name selected) : a = b := by
  obtain ⟨project, roots, ordered, found, read, given⟩ := a
  obtain ⟨project', roots', ordered', found', read', given'⟩ := b
  cases found.symm.trans found'
  cases read.symm.trans read'
  cases given.symm.trans given'
  rfl

theorem CopyReading.unique {p : Planner} {order : CopyOrder} (a b : p.CopyReading order) : a = b := by
  obtain ⟨selection, source, target, statuses, source_found, target_found, statuses_read⟩ := a
  obtain ⟨selection', source', target', statuses', source_found', target_found', statuses_read'⟩ := b
  cases selection.unique selection'
  cases source_found.symm.trans source_found'
  cases target_found.symm.trans target_found'
  cases statuses_read.symm.trans statuses_read'
  rfl

theorem joined_all {statuses : List BuildStatus} {ordered : List Component}
    (recorded : ∀ c ∈ ordered, ∃ status ∈ statuses, status.component = c.name) :
    (joined statuses ordered).map (·.1) = ordered := by
  rw [joined_components, List.filter_eq_self]
  intro c member
  obtain ⟨status, known, named⟩ := recorded c member
  exact List.any_eq_true.mpr ⟨status, known, by simpa using named⟩

/-- A build is deployed by one request, which does what the requests of a copy do. -/
theorem build_condenses_copy {σ τ : Type} (p : Planner) (order : CopyOrder)
    (build : BuildReference) (resolve : ArtifactSettings → BuildReference → Act τ BuildDetail)
    (s : σ) (t : τ) (copied deployed : List DeploymentRequest)
    (planned : ((p.plan order).run s).result = .ok copied)
    (planned' : ((p.planBuild (order.withBuild build) resolve).run t).result = .ok deployed) :
    ∃ r : p.CopyReading order,
      (∀ c ∈ r.ordered, ∃ status ∈ r.statuses, status.component = c.name) →
      ∃ one, deployed = [one] ∧ Condenses copied one ∧
        one.environment = r.target.name ∧ one.properties = order.overrides := by
  obtain ⟨r, pieces, maximal, asked⟩ := exists_requests planned
  obtain ⟨r', detail, one, assembled, rfl⟩ := exists_buildReading planned'
  refine ⟨r, fun recorded => ⟨one, rfl, ?_⟩⟩
  have target : r'.target = r.target := by
    have found := r.target_found.symm.trans r'.target_found
    exact (Option.some.inj (Except.ok.inj found)).symm
  have ordered : r'.ordered = r.ordered :=
    congrArg Selection.ordered (Selection.unique r'.toSelection r.toSelection)
  have whole : (copied.flatMap (·.components)).eraseDups =
      (Component.deployed r.ordered).eraseDups := by
    rw [asked.eraseDups_components, maximal.flatten_eq, joined_all recorded]
  obtain ⟨names, flattened, rfl⟩ := assembleAnswer_eq_some assembled
  rw [ordered] at flattened
  rw [target, eq_of_deployableNames flattened, ← whole, requestFor_eq]
  refine ⟨⟨rfl, ?_, asked.alike⟩, rfl, rfl⟩
  rw [asked.flatMap_skipped, eraseDups_filter]
  rfl

def repeating : Planner :=
  (Catalog.single [folder "Web" [leaf "Site" "site.sh"], leaf "DB" "db.sh"]
    [⟨"Web", "1", "web", "u", "P"⟩, ⟨"Site", "2", "site", "u", "P"⟩,
      ⟨"DB", "1", "db", "u", "P"⟩]).planner {}

def repeatingCopy : CopyOrder :=
  { CopyOrder.ofNames ["Web", "Site", "DB"] with skip := ["Site"], overrides := [⟨"Mode", "full"⟩] }

def repeatingRequest (components skipped : List String) (build : BuildDetail) : DeploymentRequest where
  environment := "UAT"
  components := components
  componentsToSkip := skipped
  build := build
  properties := [⟨"Mode", "full"⟩]

def repeatingReading : repeating.CopyReading repeatingCopy where
  project := ⟨1, "Payments", { url := "file:///drops" }⟩
  roots := [folder "Web" [leaf "Site" "site.sh"], leaf "DB" "db.sh"]
  ordered := [folder "Web" [leaf "Site" "site.sh"], leaf "Site" "site.sh", leaf "DB" "db.sh"]
  project_found := rfl
  roots_read := rfl
  order_given := by cbv
  source := { id := 1, name := "DEV" }
  target := { id := 2, name := "UAT" }
  statuses := [⟨"Web", "1", "web", "u", "P"⟩, ⟨"Site", "2", "site", "u", "P"⟩,
    ⟨"DB", "1", "db", "u", "P"⟩]
  source_found := rfl
  target_found := rfl
  statuses_read := rfl

theorem build_condenses_copy_repeating :
    let copied := [repeatingRequest ["Site"] ["Site"] ⟨none, "1", "web", "P", "u"⟩,
      repeatingRequest ["Site"] ["Site"] ⟨none, "2", "site", "P", "u"⟩,
      repeatingRequest ["DB"] [] ⟨none, "1", "db", "P", "u"⟩]
    let one := repeatingRequest ["Site", "DB"] ["Site"] ⟨none, "3", "/drops/3", "", "/drops/3"⟩
    ((repeating.plan repeatingCopy).run ()).result = .ok copied ∧
    ((repeating.planBuild (repeatingCopy.withBuild ⟨"", "/drops/3"⟩)
      fun _ ref => pure ref.onFileShare).run ()).result = .ok [one] ∧
    (∀ c ∈ repeatingReading.ordered, ∃ status ∈ repeatingReading.statuses,
      status.component = c.name) ∧
    Condenses copied one := by
  intro copied one
  have planned : ((repeating.plan repeatingCopy).run ()).result = .ok copied := by cbv
  have planned' : ((repeating.planBuild (repeatingCopy.withBuild ⟨"", "/drops/3"⟩)
      fun _ ref => pure ref.onFileShare).run ()).result = .ok [one] := by cbv
  have recorded : ∀ c ∈ repeatingReading.ordered, ∃ status ∈ repeatingReading.statuses,
      status.component = c.name := by decide
  obtain ⟨r, condenses⟩ := build_condenses_copy _ _ _ _ () () _ _ planned planned'
  obtain ⟨_, same, condensed, -⟩ := condenses (r.unique repeatingReading ▸ recorded)
  cases same
  exact ⟨planned, planned', recorded, condensed⟩

end Planner

end DeployPlan
