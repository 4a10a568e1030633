import DeployPlan.Proofs.Component.Search

/-!
Searches for a name. One search says whether a forest holds a component of that name, another one
fetches it for the catalog. Both end at the same component: the first one, in declaration order, that
lies too deep or bears the name. What lies behind it has no influence, so an answer that has been found
under one limit holds under every larger one.
-/

namespace DeployPlan

namespace Component

variable {limit larger : Nat} {name : String} {roots : List Component}

theorem decisive?_of_le (raised : limit ≤ larger) (walk : List (Nat × Component))
    (near : ∀ step ∈ decisive? limit name walk, step.1 ≤ limit) :
    decisive? larger name walk = decisive? limit name walk := by
  induction walk with
  | nil => rfl
  | cons step walk ih =>
    rw [decisive?_cons] at near ⊢
    rw [decisive?_cons]
    by_cases decides : limit < step.1 ∨ step.2.name = name
    · rw [if_pos decides] at near ⊢
      have here : step.1 ≤ limit := near step rfl
      have named : step.2.name = name := decides.resolve_left (Nat.not_lt_of_le here)
      rw [if_pos (Or.inr named)]
    · rw [if_neg decides] at near ⊢
      obtain ⟨low, other⟩ := not_or.mp decides
      rw [if_neg (not_or.mpr ⟨by omega, other⟩)]
      exact ih near

theorem near_of_contains {answer : Bool} (answered : contains limit name roots = .ok answer) :
    ∀ step ∈ decisive? limit name (withDepthsOfAll 1 roots), step.1 ≤ limit := by
  rw [contains_eq, findNamed_eq] at answered
  rintro ⟨depth, c⟩ decides
  rw [Option.mem_def.mp decides, answerAt] at answered
  by_cases deep : limit < depth
  · rw [if_pos deep] at answered
    cases answered
  · exact Nat.le_of_not_lt deep

theorem contains_of_le {answer : Bool} (raised : limit ≤ larger)
    (answered : contains limit name roots = .ok answer) :
    contains larger name roots = .ok answer := by
  have near := near_of_contains answered
  rw [contains_eq, findNamed_eq] at answered ⊢
  rw [decisive?_of_le raised _ near]
  cases decides : decisive? limit name (withDepthsOfAll 1 roots) with
  | none =>
    rw [decides] at answered
    exact answered
  | some step =>
    have here : step.1 ≤ limit := near step decides
    rw [decides, answerAt, if_neg (Nat.not_lt_of_le here)] at answered
    rw [answerAt, if_neg (by omega)]
    exact answered

end Component

namespace Catalog

open Component

theorem component_of_only_forest {c : Catalog} {project : UInt64} {roots : List Component}
    (only : c.forests = [(project, roots)]) (name : String) :
    c.projectStore.component name = findNamed 64 name roots := by
  change findComponent name c.forests = _
  rw [only, findComponent]
  split
  · rename_i undecided
    exact undecided.symm
  · rfl

/-- Both searches answer by the first step of the walk in declaration order that lies below the limit
or bears the name: a component that is too deep, a component found, or none. -/
theorem searches_agree (limit : Nat) (name : String) (roots : List Component) :
    let decisive (limit : Nat) : Option (Nat × Component) :=
      (withDepthsOfAll 1 roots).find? fun step => limit < step.1 || step.2.name == name
    contains limit name roots =
      (match decisive limit with
      | some (depth, c) => if limit < depth then .error (.treeTooDeep c.name limit) else .ok true
      | none => .ok false) ∧
    (∀ (c : Catalog) (project : UInt64), c.forests = [(project, roots)] →
      c.projectStore.component name =
        match decisive 64 with
        | some (depth, b) => if 64 < depth then .error (.treeTooDeep b.name 64) else .ok (some b)
        | none => .ok none) ∧
    ∀ larger answer, limit ≤ larger → contains limit name roots = .ok answer →
      contains larger name roots = .ok answer := by
  intro decisive
  refine ⟨?_, ?_, ?_⟩
  · have answered := contains_eq limit name roots
    rw [findNamed_eq] at answered
    change contains limit name roots = (answerAt limit (decisive limit)).map Option.isSome at answered
    rw [answered]
    cases decisive limit with
    | none => rfl
    | some step =>
      obtain ⟨depth, c⟩ := step
      change Except.map _ (if limit < depth then _ else _) = if limit < depth then _ else _
      split <;> rfl
  · intro c project only
    rw [component_of_only_forest only, findNamed_eq]
    change answerAt 64 (decisive 64) = _
    cases decisive 64 with
    | none => rfl
    | some step => rfl
  · intro larger answer raised answered
    exact contains_of_le raised answered

def deepBefore : List Component :=
  [.folder "Web" [.folder "Pages" [.leaf "Login" "login.sh"]], .leaf "Login" "old.sh"]

theorem searches_agree_deepBefore :
    Component.contains 2 "Login" deepBefore = .error (.treeTooDeep "Login" 2) ∧
    Component.contains 3 "Login" deepBefore = .ok true ∧
    Component.contains 64 "Login" deepBefore = .ok true ∧
    ({ forests := [(7, deepBefore)] } : Catalog).projectStore.component "Login" =
      .ok (some (.leaf "Login" "login.sh")) := by
  obtain ⟨tooDeep, -, -⟩ := searches_agree 2 "Login" deepBefore
  obtain ⟨found, fetched, kept⟩ := searches_agree 3 "Login" deepBefore
  have present : Component.contains 3 "Login" deepBefore = .ok true := found.trans (by decide)
  refine ⟨tooDeep.trans (by decide), present, kept 64 true (by decide) present, ?_⟩
  exact (fetched _ 7 rfl).trans (by decide)

end Catalog

end DeployPlan
