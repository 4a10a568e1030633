import DeployPlan.Proofs.Component.Flattening
import DeployPlan.Proofs.Plan.Answer

/-!
Requests of runs. A run with something to deploy gives one request, any other run gives none, and the
order stays. Put together, the requests deploy what the components of all runs deploy.
-/

namespace DeployPlan

open Component

/-- `Requests limit target order pieces requests`: what is asked for when the pieces are deployed one
after another. -/
inductive Requests (limit : Nat) (target : Environment) (order : CopyOrder) :
    List (List (Component × BuildStatus)) → List DeploymentRequest → Prop where
  | nil : Requests limit target order [] []
  | dropped {piece : List (Component × BuildStatus)}
      {pieces : List (List (Component × BuildStatus))} {requests : List DeploymentRequest} :
      deployableNames limit (piece.map (·.1)) = .ok [] →
      Requests limit target order pieces requests →
      Requests limit target order (piece :: pieces) requests
  | kept {piece : List (Component × BuildStatus)}
      {pieces : List (List (Component × BuildStatus))} {requests : List DeploymentRequest}
      {first : Component × BuildStatus} {names : List String} :
      deployableNames limit (piece.map (·.1)) = .ok names → names ≠ [] →
      piece.head? = some first → Requests limit target order pieces requests →
      Requests limit target order (piece :: pieces)
        ({ environment := target.name
           components := names
           componentsToSkip := names.filter (· ∈ order.skip)
           build := {
             buildId := none
             buildNumber := first.2.buildNumber
             dropLocation := first.2.dropLocation
             project := first.2.project
             uri := first.2.uri }
           properties := order.overrides } :: requests)

def pieceNames (piece : List (Component × BuildStatus)) : List String :=
  (deployed (piece.map (·.1))).eraseDups

theorem mem_pieceNames {n : String} {piece : List (Component × BuildStatus)} :
    n ∈ pieceNames piece ↔ ∃ j ∈ piece, n ∈ deployed [j.1] := by
  rw [pieceNames, List.mem_eraseDups, mem_deployed_iff_exists]
  simp

namespace Planner

variable (p : Planner) (target : Environment) (order : CopyOrder)

theorem assembleAnswer_eq_some {p : Planner} {target : Environment} {components : List Component}
    {build : BuildDetail} {skip : List String} {overrides : List Property}
    {request : DeploymentRequest}
    (assembled : p.assembleAnswer target components build skip overrides = .ok (some request)) :
    ∃ names, deployableNames p.maxDepth components = .ok names ∧
      request = requestFor target build skip overrides names := by
  obtain ⟨names, flattened, chosen⟩ := map_eq_ok_iff.mp assembled
  split at chosen
  · cases chosen
  · exact ⟨names, flattened, (Option.some.inj chosen).symm⟩

theorem runAnswer_eq (piece : List (Component × BuildStatus)) :
    ∃ f, p.runAnswer target order piece = (within p.maxDepth (piece.map (·.1))).map f := by
  cases piece with
  | nil => exact ⟨fun _ => none, rfl⟩
  | cons j more =>
    rw [runAnswer, assembleAnswer, deployableNames_eq, List.map_cons]
    cases within p.maxDepth (j.1 :: more.map (·.1)) with
    | error e => exact ⟨fun _ => none, rfl⟩
    | ok found => exact ⟨fun _ => _, rfl⟩

theorem runsAnswer_eq (pieces : List (List (Component × BuildStatus))) :
    ∃ f, p.runsAnswer target order pieces =
      (within p.maxDepth (pieces.flatten.map (·.1))).map f := by
  induction pieces with
  | nil => exact ⟨fun _ => [], rfl⟩
  | cons piece pieces ih =>
    obtain ⟨one, first⟩ := runAnswer_eq p target order piece
    obtain ⟨many, rest⟩ := ih
    -- a walk through all runs meets the components of this one before those of the others
    rw [runsAnswer, first, rest, List.flatten_cons, List.map_append, within_append]
    cases within p.maxDepth (piece.map (·.1)) with
    | error e => exact ⟨fun _ => [], rfl⟩
    | ok here =>
      cases within p.maxDepth (pieces.flatten.map (·.1)) with
      | error e => exact ⟨fun _ => [], rfl⟩
      | ok there => exact ⟨fun _ => _, rfl⟩

end Planner

namespace Requests

variable {limit : Nat} {target : Environment} {order : CopyOrder}
  {pieces : List (List (Component × BuildStatus))} {requests : List DeploymentRequest}

theorem of_runsAnswer {p : Planner} (nonempty : ∀ piece ∈ pieces, piece ≠ [])
    (answered : p.runsAnswer target order pieces = .ok requests) :
    Requests p.maxDepth target order pieces requests := by
  induction pieces generalizing requests with
  | nil =>
    cases answered
    exact .nil
  | cons piece pieces ih =>
    obtain ⟨head, tail⟩ := List.forall_mem_cons.mp nonempty
    obtain ⟨request?, first, answered⟩ := bind_eq_ok_iff.mp answered
    obtain ⟨others, rest, answered⟩ := bind_eq_ok_iff.mp answered
    cases answered
    cases piece with
    | nil => exact absurd rfl head
    | cons j more =>
      obtain ⟨names, flattened, chosen⟩ := map_eq_ok_iff.mp first
      by_cases empty : names = []
      · subst empty
        cases chosen
        exact .dropped flattened (ih tail rest)
      · rw [if_neg (by simpa using empty)] at chosen
        subst chosen
        have kept := Requests.kept flattened empty (List.head?_cons (a := j)) (ih tail rest)
        rw [Planner.requestFor_eq]
        exact kept

theorem components_eq (h : Requests limit target order pieces requests) :
    requests.map (·.components) = (pieces.map pieceNames).filter (· ≠ []) := by
  induction h with
  | nil => rfl
  | @dropped piece _ _ flattened _ ih =>
    have none : pieceNames piece = [] := (eq_of_deployableNames flattened).symm
    simp [none, ih]
  | @kept piece _ _ _ names flattened some _ _ ih =>
    have same : pieceNames piece = names := (eq_of_deployableNames flattened).symm
    simp [same, some, ih]

theorem components_ne_nil (h : Requests limit target order pieces requests) :
    ∀ r ∈ requests, r.components ≠ [] := by
  intro r member
  have listed := List.mem_map_of_mem (f := (·.components)) member
  rw [h.components_eq] at listed
  simpa using (List.mem_filter.mp listed).2

theorem exists_piece (h : Requests limit target order pieces requests)
    {request : DeploymentRequest} (member : request ∈ requests) :
    ∃ first more, first :: more ∈ pieces ∧ request.components = pieceNames (first :: more) ∧
      request.build = first.2.build := by
  induction h with
  | nil => cases member
  | dropped _ _ ih =>
    obtain ⟨first, more, piece, rest⟩ := ih member
    exact ⟨first, more, List.mem_cons_of_mem _ piece, rest⟩
  | @kept piece _ _ first _ flattened _ head _ ih =>
    rcases List.mem_cons.mp member with rfl | member
    · cases piece with
      | nil => cases head
      | cons j more =>
        cases head
        exact ⟨first, more, List.mem_cons_self, eq_of_deployableNames flattened, rfl⟩
    · obtain ⟨first, more, piece, rest⟩ := ih member
      exact ⟨first, more, List.mem_cons_of_mem _ piece, rest⟩

theorem flatMap_components (h : Requests limit target order pieces requests) :
    requests.flatMap (·.components) = pieces.flatMap pieceNames := by
  rw [List.flatMap_def, h.components_eq, List.flatten_filter_ne_nil, List.flatMap_def]

theorem eraseDups_components (h : Requests limit target order pieces requests) :
    (requests.flatMap (·.components)).eraseDups =
      (deployed (pieces.flatten.map (·.1))).eraseDups := by
  rw [h.flatMap_components]
  clear h
  induction pieces with
  | nil => simp [deployed]
  | cons piece pieces ih =>
    rw [List.flatMap_cons, List.flatten_cons, List.map_append, deployed_append]
    exact eraseDups_append_congr (eraseDups_of_nodup (nodup_eraseDups _)) ih

theorem eq_nil_iff (h : Requests limit target order pieces requests) :
    requests = [] ↔
      ¬ ∃ c ∈ pieces.flatten.map (·.1), ∃ a : Component, a.LiesIn c ∧ a.deployable = true := by
  rw [← deployed_eq_nil_iff, ← eraseDups_eq_nil_iff (l := deployed _), ← h.eraseDups_components,
    eraseDups_eq_nil_iff, List.flatMap_eq_nil_iff]
  constructor
  · rintro rfl
    simp
  · intro empty
    cases requests with
    | nil => rfl
    | cons r requests =>
      have some := h.components_ne_nil r List.mem_cons_self
      exact absurd (empty r List.mem_cons_self) some

theorem pairwise_iff (h : Requests limit target order pieces requests)
    {related : List String → List String → Prop} (left : ∀ names, related [] names)
    (right : ∀ names, related names []) :
    (requests.Pairwise fun a b => related a.components b.components) ↔
      pieces.Pairwise fun a b => related (pieceNames a) (pieceNames b) := by
  rw [← List.pairwise_map, h.components_eq, List.pairwise_filter, ← List.pairwise_map]
  constructor
  · intro pairs
    refine pairs.imp fun {a b} both => ?_
    by_cases ha : a = []
    · exact ha ▸ left b
    · by_cases hb : b = []
      · exact hb ▸ right a
      · exact both (by simpa using ha) (by simpa using hb)
  · intro pairs
    exact pairs.imp fun both _ _ => both

end Requests

end DeployPlan
