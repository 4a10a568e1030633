import DeployPlan.Proofs.Plan.Copying

/-!
Precedence. The requests of a plan deploy the subtrees of the ordered components one after another,
each name where it is met first. So a dependency comes first, unless a component of the selection
brings along what depends on it.
-/

namespace DeployPlan

open Component

/-- `carrier` deploys `component`, but neither does an earlier component deploy `dependency` nor does
`carrier` itself have it in front. A carrier that only deploys itself has no selected dependency. -/
def PulledAhead (sources : List Component) (component dependency : String) : Prop :=
  ∃ before carrier after, sources = before ++ carrier :: after ∧ component ∈ deployed [carrier] ∧
    (∀ b ∈ before, dependency ∉ deployed [b]) ∧
    ¬ (deployed [carrier]).idxOf dependency < (deployed [carrier]).idxOf component ∧
    (carrier.name = component → dependency ∉ sources.map (·.name))

/-- The requests deploy what the sources hold, in the order of first occurrence. -/
def Executes (requests : List DeploymentRequest) (sources : List Component) : Prop :=
  (requests.flatMap (·.components)).eraseDups = (deployed sources).eraseDups

def Precedes (requests : List DeploymentRequest) (dependency component : String) : Prop :=
  (requests.flatMap (·.components)).idxOf dependency <
    (requests.flatMap (·.components)).idxOf component

instance (requests : List DeploymentRequest) (dependency component : String) :
    Decidable (Precedes requests dependency component) :=
  inferInstanceAs (Decidable (_ < _))

namespace Executes

variable {requests : List DeploymentRequest} {sources : List Component}

theorem mem_iff (executes : Executes requests sources) {n : String} :
    n ∈ requests.flatMap (·.components) ↔ n ∈ deployed sources := by
  rw [← List.mem_eraseDups, executes, List.mem_eraseDups]

theorem precedes_iff (executes : Executes requests sources) {component dependency : String} :
    Precedes requests dependency component ↔
      (deployed sources).idxOf dependency < (deployed sources).idxOf component := by
  rw [Precedes, ← idxOf_eraseDups_lt_iff, executes, idxOf_eraseDups_lt_iff]

end Executes

namespace Dependencies.Ordered

variable {d : Dependencies} {roots sources : List Component} {names : List String}

theorem mem_deployed_self (arranged : d.Ordered roots names sources)
    (distinct : DistinctNames roots) {c : Component} (member : c ∈ sources)
    (occurs : c.name ∈ deployed sources) : c.name ∈ deployed [c] := by
  obtain ⟨b, source, held⟩ := mem_deployed_iff_exists.mp occurs
  have found := arranged.mem_preOrder member
  obtain ⟨-, deployable⟩ :=
    (distinct.name_mem_deployed_iff (arranged.mem_preOrder source) found).mp held
  exact (distinct.name_mem_deployed_iff found found).mpr ⟨LiesIn.refl c, deployable⟩

theorem dependency_deployed (arranged : d.Ordered roots names sources)
    (distinct : DistinctNames roots) {before after : List Component} {c : Component}
    {dependency : String} (split : sources = before ++ c :: after)
    (declared : dependency ∈ d.of c.name) (chosen : dependency ∈ sources.map (·.name))
    (occurs : dependency ∈ deployed sources) : ∃ b ∈ before, dependency ∈ deployed [b] := by
  have earlier : dependency ∈ before.map (·.name) :=
    arranged.behind before c after split dependency declared ((arranged.mem_iff _).mp chosen)
  obtain ⟨b, standing, rfl⟩ := List.mem_map.mp earlier
  have source : b ∈ sources := split ▸ List.mem_append_left _ standing
  exact ⟨b, standing, arranged.mem_deployed_self distinct source occurs⟩

theorem precedes_iff (arranged : d.Ordered roots names sources) (distinct : DistinctNames roots)
    {component dependency : String} (declared : dependency ∈ d.of component)
    (component_occurs : component ∈ deployed sources)
    (dependency_occurs : dependency ∈ deployed sources) :
    (deployed sources).idxOf dependency < (deployed sources).idxOf component ↔
      ¬ PulledAhead sources component dependency := by
  have parts := deployed_eq_flatMap sources
  rw [parts, idxOf_flatMap_lt_iff _ _ _ _ (parts ▸ component_occurs)]
  -- The first source that carries the component settles where both come to stand.
  constructor
  · rintro first ⟨before, carrier, after, split, carried, fresh, behind, -⟩
    rcases first before carrier after split carried with ⟨b, standing, held⟩ | inFront
    · exact fresh b standing held
    · exact behind inFront
  · intro free before carrier after split carried
    by_contra missing
    obtain ⟨fresh, behind⟩ := not_or.mp missing
    refine free ⟨before, carrier, after, split, carried, ?_, behind, ?_⟩
    · intro b standing held
      exact fresh ⟨b, standing, held⟩
    · rintro rfl chosen
      exact fresh (arranged.dependency_deployed distinct split declared chosen dependency_occurs)

theorem not_pulledAhead (arranged : d.Ordered roots names sources) (distinct : DistinctNames roots)
    (flat : Flat sources) {component dependency : String}
    (chosen : component ∈ sources.map (·.name)) (required : dependency ∈ sources.map (·.name)) :
    ¬ PulledAhead sources component dependency := by
  rintro ⟨before, carrier, after, split, carried, -, -, unselected⟩
  have source : carrier ∈ sources := by simp [split]
  obtain ⟨c, member, rfl⟩ := List.mem_map.mp chosen
  obtain ⟨inside, -⟩ := (distinct.name_mem_deployed_iff (arranged.mem_preOrder source)
    (arranged.mem_preOrder member)).mp carried
  cases flat c member carrier source inside
  exact unselected rfl required

end Dependencies.Ordered

namespace Planner

variable {σ : Type} {d : Dependencies} {projects : ProjectStore} {environments : EnvironmentStore}
  {limit : Nat}

theorem exists_executes_plan {p : Planner} {order : CopyOrder} {s : σ}
    {requests : List DeploymentRequest}
    (planned : ((p.plan order).run s).result = .ok requests) :
    ∃ r : p.CopyReading order, Executes requests (sources r.statuses r.ordered) := by
  obtain ⟨r, pieces, maximal, asked⟩ := exists_requests planned
  refine ⟨r, ?_⟩
  rw [Executes, sources, asked.eraseDups_components, maximal.flatten_eq]

theorem exists_executes_planBuild {p : Planner} {order : BuildOrder}
    {resolve : ArtifactSettings → BuildReference → Act σ BuildDetail} {s : σ}
    {requests : List DeploymentRequest}
    (planned : ((p.planBuild order resolve).run s).result = .ok requests) :
    ∃ r : p.BuildReading order, Executes requests r.ordered := by
  obtain ⟨r, build, request, assembled, rfl⟩ := exists_buildReading planned
  refine ⟨r, ?_⟩
  obtain ⟨names, flattened, rfl⟩ := assembleAnswer_eq_some assembled
  have whole := eq_of_deployableNames flattened
  rw [Executes, List.flatMap_singleton, ← whole]
  exact eraseDups_of_nodup (whole ▸ nodup_eraseDups _)

/-- A declared dependency is deployed first exactly when the component is not pulled ahead. -/
theorem dependency_precedes_iff (d : Dependencies) (projects : ProjectStore)
    (environments : EnvironmentStore) (limit : Nat) (s : σ) (requests : List DeploymentRequest) :
    (∀ order, (((d.planner projects environments limit).plan order).run s).result = .ok requests →
      ∃ r : (d.planner projects environments limit).CopyReading order, DistinctNames r.roots →
        ∀ component dependency, (component, dependency) ∈ d.declared →
          component ∈ requests.flatMap (·.components) →
          dependency ∈ requests.flatMap (·.components) →
          (Precedes requests dependency component ↔
            ¬ PulledAhead (sources r.statuses r.ordered) component dependency)) ∧
    (∀ order resolve,
      (((d.planner projects environments limit).planBuild order resolve).run s).result =
        .ok requests →
      ∃ r : (d.planner projects environments limit).BuildReading order, DistinctNames r.roots →
        ∀ component dependency, (component, dependency) ∈ d.declared →
          component ∈ requests.flatMap (·.components) →
          dependency ∈ requests.flatMap (·.components) →
          (Precedes requests dependency component ↔
            ¬ PulledAhead r.ordered component dependency)) := by
  constructor
  · intro order planned
    obtain ⟨r, executes⟩ := exists_executes_plan planned
    refine ⟨r, fun distinct component dependency declared first second => ?_⟩
    rw [executes.precedes_iff]
    exact (r.sources_arranged r.statuses).precedes_iff distinct
      (Dependencies.mem_of_iff.mpr declared) (executes.mem_iff.mp first) (executes.mem_iff.mp second)
  · intro order resolve planned
    obtain ⟨r, executes⟩ := exists_executes_planBuild planned
    refine ⟨r, fun distinct component dependency declared first second => ?_⟩
    rw [executes.precedes_iff]
    exact r.arranged.precedes_iff distinct
      (Dependencies.mem_of_iff.mpr declared) (executes.mem_iff.mp first) (executes.mem_iff.mp second)

theorem flat_plan_keeps_dependencies {order : CopyOrder} {s : σ}
    {requests : List DeploymentRequest}
    (planned : (((d.planner projects environments limit).plan order).run s).result = .ok requests) :
    ∃ r : (d.planner projects environments limit).CopyReading order,
      DistinctNames r.roots → Flat r.ordered →
      ∀ component dependency, (component, dependency) ∈ d.declared →
        component ∈ (sources r.statuses r.ordered).map (·.name) →
        dependency ∈ (sources r.statuses r.ordered).map (·.name) →
        component ∈ requests.flatMap (·.components) →
        dependency ∈ requests.flatMap (·.components) →
        Precedes requests dependency component := by
  obtain ⟨r, executes⟩ := exists_executes_plan planned
  refine ⟨r, fun distinct flat component dependency declared chosen required first second => ?_⟩
  have arranged := r.sources_arranged r.statuses
  have within : ∀ c ∈ sources r.statuses r.ordered, c ∈ r.ordered := by
    intro c member
    rw [sources, joined_components] at member
    exact (List.mem_filter.mp member).1
  have apart : Flat (sources r.statuses r.ordered) :=
    fun a ha b hb inside => flat a (within a ha) b (within b hb) inside
  rw [executes.precedes_iff, arranged.precedes_iff distinct (Dependencies.mem_of_iff.mpr declared)
    (executes.mem_iff.mp first) (executes.mem_iff.mp second)]
  exact arranged.not_pulledAhead distinct apart chosen required

def overtakingForest : List Component :=
  [folder "Web" [leaf "Site" "site.sh"], leaf "DB" "db.sh"]

def overtaking : Planner :=
  (Catalog.single overtakingForest
    [⟨"Web", "1", "web", "u", "P"⟩, ⟨"DB", "1", "db", "u", "P"⟩,
      ⟨"Site", "1", "site", "u", "P"⟩]).planner (({} : Dependencies).add "Site" "DB")

def overtakingCopy : CopyOrder := .ofNames ["Web", "Site", "DB"]

def overtakingBuild : BuildOrder where
  project := "Payments"
  target := "UAT"
  build := ⟨"Payments; Main", "1"⟩
  selected := ["Web", "Site", "DB"]

def overtakingRequest : DeploymentRequest where
  environment := "UAT"
  components := ["Site", "DB"]
  build := ⟨none, "1", "web", "P", "u"⟩

theorem overtakingForest_distinct : DistinctNames overtakingForest := by
  simp [DistinctNames, overtakingForest, preOrder_cons, folder, leaf]

theorem dependency_precedes_iff_overtaking :
    (∃ r : overtaking.CopyReading overtakingCopy,
      PulledAhead (sources r.statuses r.ordered) "Site" "DB") ∧
    (∃ r : overtaking.BuildReading overtakingBuild, PulledAhead r.ordered "Site" "DB") := by
  have declared : ("Site", "DB") ∈ (({} : Dependencies).add "Site" "DB").declared := by decide
  have site : "Site" ∈ [overtakingRequest].flatMap (·.components) := by decide
  have database : "DB" ∈ [overtakingRequest].flatMap (·.components) := by decide
  have late : ¬ Precedes [overtakingRequest] "DB" "Site" := by decide
  constructor
  · have planned : ((overtaking.plan overtakingCopy).run ()).result = .ok [overtakingRequest] := by
      cbv
    obtain ⟨r, condition⟩ := (dependency_precedes_iff _ _ _ _ () _).1 _ planned
    refine ⟨r, ?_⟩
    by_contra free
    refine late ((condition ?_ "Site" "DB" declared site database).mpr free)
    rw [r.roots_single]
    exact overtakingForest_distinct
  · have planned : ((overtaking.planBuild overtakingBuild
        fun _ _ => pure overtakingRequest.build).run ()).result = .ok [overtakingRequest] := by
      cbv
    obtain ⟨r, condition⟩ := (dependency_precedes_iff _ _ _ _ () _).2 _ _ planned
    refine ⟨r, ?_⟩
    by_contra free
    refine late ((condition ?_ "Site" "DB" declared site database).mpr free)
    rw [r.roots_single]
    exact overtakingForest_distinct

/-- The folder comes first and brings `Site` along, ahead of `DB`. -/
theorem dependency_overtaken :
    DistinctNames overtakingForest ∧
    ((overtaking.plan overtakingCopy).run ()).result = .ok [overtakingRequest] ∧
    ("Site", "DB") ∈ (({} : Dependencies).add "Site" "DB").declared ∧
    "Site" ∈ overtakingCopy.selected ∧ "DB" ∈ overtakingCopy.selected ∧
    "Site" ∈ [overtakingRequest].flatMap (·.components) ∧
    "DB" ∈ [overtakingRequest].flatMap (·.components) ∧
    ¬ Precedes [overtakingRequest] "DB" "Site" := by
  refine ⟨overtakingForest_distinct, by cbv, ?_⟩
  decide

end Planner

end DeployPlan
