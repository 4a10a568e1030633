import DeployPlan.Proofs.Plan.Copying

/-!
Overlap. Within a request every name is deployed once, but each run is flattened by itself. Two
requests have a name in common exactly when a component of one run lies in a component of the other.
-/

namespace DeployPlan

open Component

/-- No component with something to deploy lies in a component of the other run. -/
def Apart (run run' : List (Component × BuildStatus)) : Prop :=
  ∀ a ∈ run, ∀ b ∈ run', (a.1.LiesIn b.1 → deployed [a.1] = []) ∧
    (b.1.LiesIn a.1 → deployed [b.1] = [])

def DeployedOnce (requests : List DeploymentRequest) : Prop :=
  requests.Pairwise fun a b => a.components.Disjoint b.components

theorem pieceNames_disjoint_iff {roots : List Component} (distinct : DistinctNames roots)
    {run run' : List (Component × BuildStatus)} (known : ∀ a ∈ run, a.1 ∈ preOrder roots)
    (known' : ∀ b ∈ run', b.1 ∈ preOrder roots) :
    (pieceNames run).Disjoint (pieceNames run') ↔ Apart run run' := by
  constructor
  · intro disjoint a ha b hb
    constructor
    · intro inside
      refine List.eq_nil_iff_forall_not_mem.mpr fun n held => ?_
      exact disjoint (mem_pieceNames.mpr ⟨a, ha, held⟩)
        (mem_pieceNames.mpr ⟨b, hb, inside.deployed_subset held⟩)
    · intro inside
      refine List.eq_nil_iff_forall_not_mem.mpr fun n held => ?_
      exact disjoint (mem_pieceNames.mpr ⟨a, ha, inside.deployed_subset held⟩)
        (mem_pieceNames.mpr ⟨b, hb, held⟩)
  · intro apart n held held'
    obtain ⟨a, ha, na⟩ := mem_pieceNames.mp held
    obtain ⟨b, hb, nb⟩ := mem_pieceNames.mp held'
    -- With distinct names only nested components have a leaf in common.
    rcases nested_of_mem_deployed distinct (known a ha) (known' b hb) na nb with inside | inside
    · rw [(apart a ha b hb).1 inside] at na
      cases na
    · rw [(apart a ha b hb).2 inside] at nb
      cases nb

theorem pairwise_apart {pieces : List (List (Component × BuildStatus))}
    (nodup : (pieces.flatten.map (·.1)).Nodup) (flat : Flat (pieces.flatten.map (·.1))) :
    pieces.Pairwise Apart := by
  have different := (List.pairwise_flatten.mp (List.pairwise_map.mp nodup)).2
  refine different.imp_of_mem fun {run run'} member member' apart a ha b hb => ?_
  have source : a.1 ∈ pieces.flatten.map (·.1) :=
    List.mem_map_of_mem (List.mem_flatten.mpr ⟨run, member, ha⟩)
  have source' : b.1 ∈ pieces.flatten.map (·.1) :=
    List.mem_map_of_mem (List.mem_flatten.mpr ⟨run', member', hb⟩)
  constructor
  · intro inside
    exact absurd (flat a.1 source b.1 source' inside) (apart a ha b hb)
  · intro inside
    exact absurd (flat b.1 source' a.1 source inside).symm (apart a ha b hb)

namespace Planner

variable {σ : Type}

theorem requests_disjoint_iff (d : Dependencies) (projects : ProjectStore)
    (environments : EnvironmentStore) (limit : Nat) (order : CopyOrder) (s : σ)
    (requests : List DeploymentRequest)
    (planned : (((d.planner projects environments limit).plan order).run s).result =
      .ok requests) :
    ∃ (r : (d.planner projects environments limit).CopyReading order)
      (pieces : List (List (Component × BuildStatus))),
      MaximalRuns (·.2.buildNumber) (joined r.statuses r.ordered) pieces ∧
      (DistinctNames r.roots → (DeployedOnce requests ↔ pieces.Pairwise Apart) ∧
        (Flat r.ordered → DeployedOnce requests) ∧ (order.selected = [] → DeployedOnce requests)) := by
  obtain ⟨r, pieces, maximal, asked⟩ := exists_requests planned
  refine ⟨r, pieces, maximal, fun distinct => ?_⟩
  have arranged := r.sources_arranged r.statuses
  rw [sources, ← maximal.flatten_eq] at arranged
  have known : ∀ run ∈ pieces, ∀ a ∈ run, a.1 ∈ preOrder r.roots := by
    intro run member a ha
    exact arranged.mem_preOrder (List.mem_map_of_mem (List.mem_flatten.mpr ⟨run, member, ha⟩))
  have exactly : DeployedOnce requests ↔ pieces.Pairwise Apart := by
    rw [DeployedOnce, asked.pairwise_iff List.disjoint_nil_left List.disjoint_nil_right]
    exact List.Pairwise.iff_of_mem fun member member' =>
      pieceNames_disjoint_iff distinct (known _ member) (known _ member')
  have unnested : Flat r.ordered → DeployedOnce requests := by
    intro flat
    refine exactly.mpr (pairwise_apart (arranged.nodup.of_map _) ?_)
    rw [maximal.flatten_eq]
    intro a ha b hb inside
    obtain ⟨j, member, rfl⟩ := List.mem_map.mp ha
    obtain ⟨k, member', rfl⟩ := List.mem_map.mp hb
    exact flat _ (mem_joined_iff.mp member).1 _ (mem_joined_iff.mp member').1 inside
  exact ⟨exactly, unnested, fun empty => unnested (r.flat_of_empty empty distinct)⟩

def overlappingForest : List Component := [folder "Web" [leaf "Site" "site.sh"]]

def overlapping : Planner :=
  (Catalog.single overlappingForest
    [⟨"Web", "1", "web", "u", "P"⟩, ⟨"Site", "2", "site", "u", "P"⟩]).planner {}

def overlappingRequests : List DeploymentRequest :=
  [{ environment := "UAT", components := ["Site"], build := ⟨none, "1", "web", "P", "u"⟩ },
   { environment := "UAT", components := ["Site"], build := ⟨none, "2", "site", "P", "u"⟩ }]

theorem overlappingForest_distinct : DistinctNames overlappingForest := by
  simp [DistinctNames, overlappingForest, preOrder_cons, folder, leaf]

theorem overlappingRequests_twice : ¬ DeployedOnce overlappingRequests := by
  intro once
  obtain ⟨apart, -⟩ := List.pairwise_cons.mp once
  have site : "Site" ∈ ["Site"] := List.mem_singleton_self "Site"
  exact apart _ List.mem_cons_self site site

theorem requests_disjoint_iff_overlapping :
    ∃ (r : overlapping.CopyReading (.ofNames ["Web", "Site"]))
      (pieces : List (List (Component × BuildStatus))),
      MaximalRuns (·.2.buildNumber) (joined r.statuses r.ordered) pieces ∧
      ¬ pieces.Pairwise Apart ∧ ¬ Flat r.ordered := by
  have planned : ((overlapping.plan (.ofNames ["Web", "Site"])).run ()).result =
      .ok overlappingRequests := by cbv
  obtain ⟨r, pieces, maximal, condition⟩ := requests_disjoint_iff _ _ _ _ _ () _ planned
  have distinct : DistinctNames r.roots := by
    rw [r.roots_single]
    exact overlappingForest_distinct
  obtain ⟨exactly, unnested, -⟩ := condition distinct
  refine ⟨r, pieces, maximal, ?_, ?_⟩
  · intro apart
    exact overlappingRequests_twice (exactly.mpr apart)
  · intro flat
    exact overlappingRequests_twice (unnested flat)

/-- `Site` is deployed with its folder and once more by itself. -/
theorem requests_overlap :
    DistinctNames overlappingForest ∧
    ((overlapping.plan (.ofNames ["Web", "Site"])).run ()).result = .ok overlappingRequests ∧
    ¬ DeployedOnce overlappingRequests :=
  ⟨overlappingForest_distinct, by cbv, overlappingRequests_twice⟩

end Planner

end DeployPlan
