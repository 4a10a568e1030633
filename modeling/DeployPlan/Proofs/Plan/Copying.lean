import Mathlib
import DeployPlan.Proofs.Plan.Reading
import DeployPlan.Proofs.Plan.Requests
import DeployPlan.Proofs.Runs

/-!
Copying an environment. The requests of a plan are the maximal runs of equal build number among the
wanted components with a status, without the runs that deploy nothing. A request deploys a component
from the build recorded for the wanted component through which it is reached.
-/

namespace DeployPlan.Planner

open Component

variable {σ : Type}

theorem mem_joined_iff {statuses : List BuildStatus} {ordered : List Component}
    {j : Component × BuildStatus} :
    j ∈ joined statuses ordered ↔ j.1 ∈ ordered ∧ LastRecorded statuses j.1.name j.2 := by
  obtain ⟨c, status⟩ := j
  rw [← lastStatus?_eq_some_iff, joined, List.mem_filterMap]
  constructor
  · rintro ⟨a, member, paired⟩
    obtain ⟨found, recorded, same⟩ := Option.map_eq_some_iff.mp paired
    cases same
    exact ⟨member, recorded⟩
  · rintro ⟨member, recorded⟩
    exact ⟨c, member, Option.map_eq_some_iff.mpr ⟨status, recorded, rfl⟩⟩

theorem joined_components (statuses : List BuildStatus) (ordered : List Component) :
    (joined statuses ordered).map (·.1) =
      ordered.filter fun c => statuses.any (·.component == c.name) := by
  induction ordered with
  | nil => rfl
  | cons c ordered ih =>
    rw [joined, List.filterMap_cons]
    cases found : lastStatus? statuses c.name with
    | none =>
      have absent : statuses.any (·.component == c.name) = false := by
        simpa [lastStatus?] using found
      rw [List.filter_cons, absent, ← ih]
      rfl
    | some status =>
      have present : statuses.any (·.component == c.name) = true := by
        obtain ⟨earlier, later, rfl, named, -⟩ := lastStatus?_eq_some_iff.mp found
        simp [named]
      rw [List.filter_cons, present, ← ih]
      rfl

def sources (statuses : List BuildStatus) (ordered : List Component) : List Component :=
  (joined statuses ordered).map (·.1)

theorem Selection.sources_arranged {d : Dependencies} {projects : ProjectStore}
    {environments : EnvironmentStore} {limit : Nat} {name : String} {selected : List String}
    (r : (d.planner projects environments limit).Selection name selected)
    (statuses : List BuildStatus) :
    d.Ordered r.roots ((sources statuses r.ordered).map (·.name))
      (sources statuses r.ordered) := by
  rw [sources, joined_components]
  exact r.arranged.filter _

theorem exists_requests {p : Planner} {order : CopyOrder} {s : σ}
    {requests : List DeploymentRequest}
    (planned : ((p.plan order).run s).result = .ok requests) :
    ∃ (r : p.CopyReading order) (pieces : List (List (Component × BuildStatus))),
      MaximalRuns (·.2.buildNumber) (joined r.statuses r.ordered) pieces ∧
      Requests p.maxDepth r.target order pieces requests := by
  obtain ⟨r, -, answered⟩ := exists_copyReading planned
  have maximal := runs_maximal (·.2.buildNumber) (joined r.statuses r.ordered)
  exact ⟨r, _, maximal, .of_runsAnswer maximal.ne_nil answered⟩

/-- The wanted components that have a status, each with its last one, are cut into maximal runs of
equal build number; these give the requests. -/
theorem plan_asks_for_runs (p : Planner) (order : CopyOrder) (s : σ)
    (requests : List DeploymentRequest)
    (planned : ((p.plan order).run s).result = .ok requests) :
    ∃ (r : p.CopyReading order) (statusOf : List (Component × BuildStatus))
      (pieces : List (List (Component × BuildStatus))),
      statusOf.map (·.1) = r.ordered.filter (fun c => r.statuses.any (·.component == c.name)) ∧
      (∀ j ∈ statusOf, LastRecorded r.statuses j.1.name j.2) ∧
      MaximalRuns (·.2.buildNumber) statusOf pieces ∧
      Requests p.maxDepth r.target order pieces requests := by
  obtain ⟨r, pieces, maximal, asked⟩ := exists_requests planned
  exact ⟨r, joined r.statuses r.ordered, pieces, joined_components r.statuses r.ordered,
    fun j member => (mem_joined_iff.mp member).2, maximal, asked⟩

def interleaved : Planner :=
  (Catalog.single
    [leaf "A" "a.sh", leaf "B" "b.sh", folder "Empty" [], leaf "New" "n.sh", leaf "C" "c.sh"]
    [⟨"A", "0", "old", "u", "P"⟩, ⟨"B", "2", "two", "u", "P"⟩, ⟨"Empty", "3", "three", "u", "P"⟩,
      ⟨"C", "1", "elsewhere", "u", "P"⟩, ⟨"A", "1", "one", "u", "P"⟩]).planner {}

theorem plan_asks_for_runs_interleaved :
    let order := { CopyOrder.ofNames [] with skip := ["C"] }
    ∃ requests, ((interleaved.plan order).run ()).result = .ok requests ∧
      requests.map (·.components) = [["A"], ["B"], ["C"]] ∧
      ∃ (r : interleaved.CopyReading order) (statusOf : List (Component × BuildStatus))
        (pieces : List (List (Component × BuildStatus))),
        statusOf.map (·.1) = r.ordered.filter (fun c => r.statuses.any (·.component == c.name)) ∧
        (∀ j ∈ statusOf, LastRecorded r.statuses j.1.name j.2) ∧
        MaximalRuns (·.2.buildNumber) statusOf pieces ∧
        Requests interleaved.maxDepth r.target order pieces requests := by
  intro order
  have planned : ((interleaved.plan order).run ()).result = .ok
      [{ environment := "UAT", components := ["A"], build := ⟨none, "1", "one", "P", "u"⟩ },
       { environment := "UAT", components := ["B"], build := ⟨none, "2", "two", "P", "u"⟩ },
       { environment := "UAT", components := ["C"], componentsToSkip := ["C"],
         build := ⟨none, "1", "elsewhere", "P", "u"⟩ }] := by cbv
  exact ⟨_, planned, rfl, plan_asks_for_runs interleaved order () _ planned⟩

/-- Records of one build number are records of one build. -/
def Coherent (statuses : List BuildStatus) : Prop :=
  ∀ a ∈ statuses, ∀ b ∈ statuses, a.buildNumber = b.buildNumber → a.build = b.build

/-- A request deploys a run of components from the build recorded for the first of them. The records
of the others have its number; what stands below a component goes with it. -/
structure BuiltFrom (statuses : List BuildStatus) (ordered : List Component)
    (request : DeploymentRequest) (run : List (Component × BuildStatus)) : Prop where
  part : run <:+: joined statuses ordered
  build_eq : ∃ first ∈ run.head?, request.build = first.2.build
  recorded : ∀ j ∈ run, j.1 ∈ ordered ∧ LastRecorded statuses j.1.name j.2 ∧
    j.2.buildNumber = request.build.buildNumber
  carried : ∀ n ∈ request.components, ∃ j ∈ run, n ∈ deployed [j.1]
  own_number : ∀ n ∈ run.map (·.1.name), ∀ status, LastRecorded statuses n status →
    status.buildNumber = request.build.buildNumber
  own_build : Coherent statuses → ∀ status ∈ statuses,
    status.buildNumber = request.build.buildNumber → status.build = request.build

theorem request_build_recorded (p : Planner) (order : CopyOrder) (s : σ)
    (requests : List DeploymentRequest)
    (planned : ((p.plan order).run s).result = .ok requests) :
    ∃ r : p.CopyReading order, ∀ request ∈ requests, ∃ run,
      BuiltFrom r.statuses r.ordered request run := by
  obtain ⟨r, pieces, maximal, asked⟩ := exists_requests planned
  refine ⟨r, fun request member => ?_⟩
  obtain ⟨first, more, piece, names, build⟩ := asked.exists_piece member
  -- A run is a piece of the join, so it has its entries.
  have part : first :: more <:+: joined r.statuses r.ordered := by
    rw [← maximal.flatten_eq]
    exact List.infix_of_mem_flatten piece
  have known : ∀ j ∈ first :: more, j.1 ∈ r.ordered ∧ LastRecorded r.statuses j.1.name j.2 :=
    fun j member => mem_joined_iff.mp (part.subset member)
  have numbered : ∀ j ∈ first :: more, j.2.buildNumber = request.build.buildNumber := by
    intro j member
    rw [build]
    exact maximal.same_key _ piece j member first List.mem_cons_self
  refine ⟨first :: more, part, ⟨first, rfl, build⟩, ?_, ?_, ?_, ?_⟩
  · intro j member
    exact ⟨(known j member).1, (known j member).2, numbered j member⟩
  · intro n member
    rw [names] at member
    exact mem_pieceNames.mp member
  · intro n named status recorded
    obtain ⟨j, member, rfl⟩ := List.mem_map.mp named
    rw [recorded.unique (known j member).2]
    exact numbered j member
  · intro coherent status recorded same
    rw [build] at same ⊢
    exact coherent status recorded first.2 (known first List.mem_cons_self).2.mem same

def folderStatuses : List BuildStatus :=
  [⟨"Web", "1", "web", "u", "P"⟩, ⟨"Site", "2", "site", "u", "P"⟩, ⟨"API", "1", "api", "u", "P"⟩]

def folderCopy : Planner :=
  (Catalog.single [folder "Web" [leaf "Site" "site.sh"], leaf "API" "api.sh"]
    folderStatuses).planner {}

def folderRequest : DeploymentRequest where
  environment := "UAT"
  components := ["Site", "API"]
  build := ⟨none, "1", "web", "P", "u"⟩

theorem request_build_recorded_folder :
    ((folderCopy.plan (.ofNames [])).run ()).result = .ok [folderRequest] ∧
    ∃ r : folderCopy.CopyReading (.ofNames []), ∀ request ∈ [folderRequest], ∃ run,
      BuiltFrom r.statuses r.ordered request run := by
  have planned : ((folderCopy.plan (.ofNames [])).run ()).result = .ok [folderRequest] := by cbv
  exact ⟨planned, request_build_recorded folderCopy (.ofNames []) () _ planned⟩

/-- `Site` goes with the build of its folder, `API` is taken from where the folder was dropped. -/
theorem request_build_unlike_records :
    ((folderCopy.plan (.ofNames [])).run ()).result = .ok [folderRequest] ∧
    ∃ site api, LastRecorded folderStatuses "Site" site ∧ LastRecorded folderStatuses "API" api ∧
      "Site" ∈ folderRequest.components ∧
      folderRequest.build.buildNumber ≠ site.buildNumber ∧
      "API" ∈ folderRequest.components ∧
      folderRequest.build.buildNumber = api.buildNumber ∧
      folderRequest.build.dropLocation ≠ api.dropLocation := by
  refine ⟨by cbv, ⟨"Site", "2", "site", "u", "P"⟩, ⟨"API", "1", "api", "u", "P"⟩, ?_, ?_, ?_⟩
  · exact lastStatus?_eq_some_iff.mp rfl
  · exact lastStatus?_eq_some_iff.mp rfl
  · decide

end DeployPlan.Planner
