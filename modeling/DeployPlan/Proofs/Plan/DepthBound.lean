import Mathlib
import DeployPlan.Proofs.Build.Failures
import DeployPlan.Proofs.Plan.Outcome

/-!
Bounds of depth. A planner goes down as far as it is told to; the catalog and the ordering go down 64
levels, whatever the planner is told. Whoever refuses a forest as too deep has met a path that is
longer than the bound that is named.
-/

namespace DeployPlan

open Component

/-- Where the bound of a refusal comes from: the planner's own walks through the forest of the project,
the walk that puts components in order, or the search of all forests for a name that is foreign to
the project. -/
inductive TooDeep (c : Catalog) (limit : Nat) (project : Project) (selected : List String) :
    Nat → Prop
  | planning {path : List Component} : Path (c.roots project.id) path → limit < path.length →
      TooDeep c limit project selected limit
  | ordering {path : List Component} : Path (c.roots project.id) path → 64 < path.length →
      TooDeep c limit project selected 64
  | searching {n : String} {entry : UInt64 × List Component} {path : List Component} :
      n ∈ selected → ¬ Occurs (c.roots project.id) n → entry ∈ c.forests → Path entry.2 path →
      64 < path.length → TooDeep c limit project selected 64

structure DepthBounded {α : Type} (c : Catalog) (limit : Nat) (project : String)
    (selected : List String) (answer : Except Failure α) : Prop where
  within : ∀ found, c.projects.lookup project = some found →
    (∀ path, Path (c.roots found.id) path → path.length ≤ limit ∧ path.length ≤ 64) →
    (∀ n ∈ selected, Occurs (c.roots found.id) n) →
    ∀ n bound, answer ≠ .error (.treeTooDeep n bound)
  beyond : ∀ n bound, answer = .error (.treeTooDeep n bound) →
    ∃ found, c.projects.lookup project = some found ∧ TooDeep c limit found selected bound

theorem DepthBounded.of_beyond {α : Type} {c : Catalog} {limit : Nat} {project : String}
    {selected : List String} {answer : Except Failure α}
    (beyond : ∀ n bound, answer = .error (.treeTooDeep n bound) →
      ∃ found, c.projects.lookup project = some found ∧ TooDeep c limit found selected bound) :
    DepthBounded c limit project selected answer where
  within := by
    intro found registered short known n bound refused
    obtain ⟨same, registered', deep⟩ := beyond n bound refused
    cases registered.symm.trans registered'
    cases deep with
    | planning descends long => exact Nat.not_lt.mpr (short _ descends).1 long
    | ordering descends long => exact Nat.not_lt.mpr (short _ descends).2 long
    | searching member foreign _ _ _ => exact foreign (known _ member)
  beyond := beyond

section

variable {c : Catalog} {d : Dependencies} {limit : Nat} {project : Project} {selected : List String}
  {n : String} {bound : Nat}

theorem TooDeep.of_height (deep : limit < heightOfAll (c.roots project.id)) :
    TooDeep c limit project selected limit := by
  obtain ⟨path, descends, long⟩ := exists_path_iff.mpr deep
  exact .planning descends long

theorem Refusal.tooDeep_bound (member : n ∈ selected) {m : String}
    (refused : Refusal c limit project n (.treeTooDeep m bound)) :
    TooDeep c limit project selected bound := by
  generalize failure : Failure.treeTooDeep m bound = e at refused
  cases refused with
  | tooDeep searched =>
    cases failure
    obtain ⟨b, -, deep⟩ := of_contains_error searched
    exact .of_height deep
  | foreign _ _ _ _ _ _ => cases failure
  | unknown _ _ => cases failure
  | unsearchable absent searched =>
    cases failure
    have found := Catalog.found_findComponent n c.forests
    change Catalog.findComponent n c.forests = _ at searched
    rw [searched] at found
    rcases found with none | ⟨entry, registered, found⟩
    · cases none
    · cases found with
      | tooDeep deep =>
        obtain ⟨path, descends, long⟩ := exists_path_iff.mpr deep
        exact .searching member (not_occurs_of_contains absent) registered descends long

theorem Unordered.tooDeep_bound {names : List String} {m : String}
    (failed : Unordered d (c.roots project.id) names (.treeTooDeep m bound)) :
    TooDeep c limit project selected bound := by
  cases failed with
  | tooDeep first =>
    obtain ⟨path, descends, long⟩ := exists_path_iff.mpr (exists_firstAtDepth_iff.mp ⟨_, first⟩)
    exact .ordering descends long

theorem SelectionOutcome.tooDeep_bound {m : String}
    (outcome : SelectionOutcome c d limit project selected (.error (.treeTooDeep m bound))) :
    TooDeep c limit project selected bound := by
  rw [SelectionOutcome] at outcome
  split at outcome
  · obtain ⟨n, e, least, refused, answer⟩ := outcome
    cases answer
    exact refused.tooDeep_bound least.1
  · exact (outcome.2 _ rfl).tooDeep_bound

theorem CopiedOutcome.tooDeep_bound {source : Environment} {copied : List Component} {m : String}
    (outcome : CopiedOutcome limit source copied (.error (.treeTooDeep m bound))) :
    bound = limit ∧ limit < heightOfAll copied := by
  rw [CopiedOutcome] at outcome
  split at outcome
  · cases outcome
  · split at outcome
    · rename_i deep
      obtain ⟨b, -, answer⟩ := outcome
      cases answer
      exact ⟨rfl, lt_heightOfAll_iff.mpr deep⟩
    · split at outcome
      · cases outcome
      · obtain ⟨_, answer, -⟩ := outcome
        cases answer

theorem TooDeep.of_ordered {ordered cs : List Component}
    (given : (c.plannerWithin d limit).selectionAnswer project selected = .ok ordered)
    (known : ∀ b ∈ cs, b ∈ ordered) (deep : limit < heightOfAll cs) :
    TooDeep c limit project selected limit := by
  obtain ⟨roots, read, given⟩ := Planner.selectionAnswer_eq_ok given
  have arranged := Dependencies.ordering_spec given read
  cases read
  -- what is flattened was found in the forest, so it is no higher than the forest
  have low : heightOfAll cs ≤ heightOfAll (c.roots project.id) :=
    heightOfAll_le_of_subset fun b member => arranged.mem_preOrder (known b member)
  exact .of_height (Nat.lt_of_lt_of_le deep low)

end

namespace Planner

variable {σ : Type} {c : Catalog} {d : Dependencies} {limit : Nat} {n : String} {bound : Nat}

theorem environment_ne_tooDeep (name : String) :
    (c.plannerWithin d limit).environment name ≠ .error (.treeTooDeep n bound) := by
  intro failed
  rw [environment_eq] at failed
  split at failed
  · cases failed
  · cases failed

theorem selection_tooDeep {project : Project} {selected : List String}
    (failed : (c.plannerWithin d limit).selectionAnswer project selected =
      .error (.treeTooDeep n bound)) : TooDeep c limit project selected bound := by
  have outcome := selection_outcome c d limit project selected
  rw [failed] at outcome
  exact outcome.tooDeep_bound

theorem exists_project_of_tooDeep {α : Type} {name : String} {next : Project → Except Failure α}
    (failed : ((c.plannerWithin d limit).project name >>= next) = .error (.treeTooDeep n bound)) :
    ∃ found, c.projects.lookup name = some found ∧ next found = .error (.treeTooDeep n bound) := by
  rw [project_eq] at failed
  cases found : c.projects.lookup name with
  | none =>
    rw [found] at failed
    cases failed
  | some project =>
    rw [found] at failed
    exact ⟨project, rfl, failed⟩

theorem plan_tooDeep {order : CopyOrder} {s : σ}
    (failed : (((c.plannerWithin d limit).plan order).run s).result =
      .error (.treeTooDeep n bound)) :
    ∃ found, c.projects.lookup order.project = some found ∧
      TooDeep c limit found order.selected bound := by
  rw [result_plan] at failed
  obtain ⟨project, found, failed⟩ := exists_project_of_tooDeep failed
  refine ⟨project, found, ?_⟩
  rcases bind_eq_error_iff.mp failed with failed | ⟨source, -, failed⟩
  · exact absurd failed (environment_ne_tooDeep _)
  rcases bind_eq_error_iff.mp failed with failed | ⟨target, -, failed⟩
  · exact absurd failed (environment_ne_tooDeep _)
  rcases bind_eq_error_iff.mp failed with failed | ⟨ordered, given, failed⟩
  · exact selection_tooDeep failed
  rcases bind_eq_error_iff.mp failed with failed | ⟨statuses, -, failed⟩
  · cases failed
  have outcome :=
    joinedAnswer_outcome (c.plannerWithin d limit) source target order statuses ordered
  rw [failed] at outcome
  obtain ⟨rfl, deep⟩ := outcome.tooDeep_bound
  exact .of_ordered given (fun b member => (List.mem_filter.mp member).1) deep

theorem planBuild_tooDeep {order : BuildOrder}
    {resolve : ArtifactSettings → BuildReference → Act σ BuildDetail} {s : σ}
    (served : ∀ a ref, (resolve a ref).FailsOnly fun e => ∀ n bound, e ≠ .treeTooDeep n bound)
    (failed : (((c.plannerWithin d limit).planBuild order resolve).run s).result =
      .error (.treeTooDeep n bound)) :
    ∃ found, c.projects.lookup order.project = some found ∧
      TooDeep c limit found order.selected bound := by
  rw [result_planBuild] at failed
  obtain ⟨project, found, failed⟩ := exists_project_of_tooDeep failed
  refine ⟨project, found, ?_⟩
  -- Of all the steps only the selection and the flattening fail for a depth.
  rcases bind_eq_error_iff.mp failed with failed | ⟨target, -, failed⟩
  · exact absurd failed (environment_ne_tooDeep _)
  rcases bind_eq_error_iff.mp failed with failed | ⟨ordered, given, failed⟩
  · exact selection_tooDeep failed
  rcases bind_eq_error_iff.mp failed with failed | ⟨build, -, failed⟩
  · exact absurd rfl (served _ _ s _ failed n bound)
  rcases bind_eq_error_iff.mp failed with failed | ⟨request?, -, failed⟩
  · rw [assembleAnswer, map_eq_error_iff] at failed
    rcases Nat.lt_or_ge limit (heightOfAll ordered) with deep | low
    · obtain ⟨b, -, answer⟩ := deployableNames_of_deep deep
      cases answer.symm.trans failed
      exact .of_ordered given (fun b member => member) deep
    · cases (deployableNames_of_low low).symm.trans failed
  · rw [finishAnswer] at failed
    split at failed
    · cases failed
    · cases failed

/-- Both ways of planning refuse a forest for its depth only beyond the planner's bound or beyond 64
levels, provided that the service that is asked for builds does not. -/
theorem depth_bounds (c : Catalog) (d : Dependencies) (limit : Nat) (copy : CopyOrder)
    (order : BuildOrder) (r : Resolver σ) (s : σ)
    (served : r.service.FailsOnly fun e => ∀ n bound, e ≠ .treeTooDeep n bound) :
    DepthBounded c limit copy.project copy.selected
      (((c.plannerWithin d limit).plan copy).run s).result ∧
    DepthBounded c limit order.project order.selected
      (((c.plannerWithin d limit).planBuild order r.resolve).run s).result := by
  have own : ∀ e : Failure, e.ofResolution = true → ∀ n bound, e ≠ .treeTooDeep n bound := by
    rintro e known n bound rfl
    cases known
  constructor
  · exact .of_beyond fun n bound failed => plan_tooDeep failed
  · exact .of_beyond fun n bound failed =>
      planBuild_tooDeep (fun a ref => r.resolve_failsOnly served own a ref) failed

def offline : Resolver Unit := (⟨{}, Web.unreachable⟩ : Web.Client Unit).resolver 1

def tower : Nat → Component
  | 0 => leaf "leaf" "leaf.sh"
  | n + 1 => folder ("level" ++ Number.text n) [tower n]

theorem heightOfAll_tower (levels : Nat) : heightOfAll [tower levels] = levels + 1 := by
  induction levels with
  | zero => rfl
  | succ levels ih =>
    have step := heightOfAll_cons (tower (levels + 1)) []
    have below : (tower (levels + 1)).children = [tower levels] := rfl
    rw [below, ih, heightOfAll] at step
    omega

def towerPlanner (levels limit : Nat) : Planner :=
  (Catalog.single [tower levels] []).plannerWithin {} limit

def fromShare (selected : List String) : BuildOrder where
  project := "Payments"
  target := "UAT"
  build := ⟨"", "/drops/web/1.0"⟩
  selected := selected

theorem depth_bounds_tower :
    let c := Catalog.single [tower 2] []
    (((towerPlanner 2 2).plan (.ofNames ["leaf"])).run ()).result = .error (.treeTooDeep "leaf" 2) ∧
    offline.service.FailsOnly (fun e => ∀ n bound, e ≠ .treeTooDeep n bound) ∧
    DepthBounded c 2 "Payments" ["leaf"]
      (((towerPlanner 2 2).plan (.ofNames ["leaf"])).run ()).result ∧
    DepthBounded c 2 "Payments" ["leaf"]
      (((towerPlanner 2 2).planBuild (fromShare ["leaf"]) offline.resolve).run ()).result := by
  intro c
  have served := (⟨{}, Web.unreachable⟩ : Web.Client Unit).service_ne_tooDeep 1
  refine ⟨by cbv, served, ?_⟩
  exact depth_bounds c {} 2 (.ofNames ["leaf"]) (fromShare ["leaf"]) offline () served

theorem whole_of_deep (c : Catalog) (d : Dependencies) (limit : Nat) (project : Project)
    (deep : 64 < heightOfAll (c.roots project.id)) :
    ∃ b, FirstAtDepth 65 (c.roots project.id) b ∧
      (c.plannerWithin d limit).selectionAnswer project [] =
        .error (.treeTooDeep b.name 64) := by
  rw [selectionAnswer_eq, if_pos (by simp [nameSet])]
  exact d.ordering_of_deep rfl deep

/-- Both ways of planning refuse a forest of 65 levels although they are allowed 80. -/
theorem refused_within_bound :
    let c := Catalog.single [tower 64] []
    c.projects.lookup "Payments" = some payments ∧
    (∀ path, Path (c.roots payments.id) path → path.length ≤ 80) ∧
    ∃ n, (((towerPlanner 64 80).plan (.ofNames [])).run ()).result = .error (.treeTooDeep n 64) ∧
      (((towerPlanner 64 80).planBuild (fromShare []) offline.resolve).run ()).result =
        .error (.treeTooDeep n 64) := by
  intro c
  have high : heightOfAll (c.roots payments.id) = 65 := heightOfAll_tower 64
  obtain ⟨b, -, refused⟩ := whole_of_deep c {} 80 payments
    (Nat.lt_of_lt_of_eq (by decide) high.symm)
  refine ⟨rfl, heightOfAll_le_iff.mp (Nat.le_trans (Nat.le_of_eq high) (by decide)), b.name, ?_, ?_⟩
  · rw [result_plan]
    change ((towerPlanner 64 80).selectionAnswer payments [] >>= _) = _
    rw [towerPlanner, refused]
    rfl
  · rw [result_planBuild]
    change ((towerPlanner 64 80).selectionAnswer payments [] >>= _) = _
    rw [towerPlanner, refused]
    rfl

end Planner

end DeployPlan
