import Mathlib
import DeployPlan.Proofs.Component.Search
import DeployPlan.Proofs.Ordering.Answer
import DeployPlan.Proofs.Plan.Reading

/-!
Selections. Planning first puts the wanted components in order. A selected name that the search of the
project's forest does not find is refused, the least one first; after that only the depth of the forest
and a cycle of dependencies can keep the components from being ordered.
-/

namespace DeployPlan

open Component

/-- The least selected name that a search of the forest does not find. -/
def LeastStranger (limit : Nat) (roots : List Component) (selected : List String) (n : String) :
    Prop :=
  n ∈ selected ∧ contains limit n roots ≠ .ok true ∧
    ∀ m ∈ selected, contains limit m roots ≠ .ok true → n ≤ m

/-- Why a name that is not found in the forest of the project is refused. -/
inductive Refusal (c : Catalog) (limit : Nat) (project : Project) (n : String) : Failure → Prop
  | tooDeep {b : Component} :
      contains limit n (c.roots project.id) = .error (.treeTooDeep b.name limit) →
      Refusal c limit project n (.treeTooDeep b.name limit)
  | foreign {b : Component} {entry : UInt64 × List Component} :
      contains limit n (c.roots project.id) = .ok false →
      c.projectStore.component n = .ok (some b) → entry ∈ c.forests →
      entry.2 ≠ c.roots project.id → b ∈ preOrder entry.2 → b.name = n →
      Refusal c limit project n (.invalid (.foreignComponent n project.name))
  | unknown : contains limit n (c.roots project.id) = .ok false →
      c.projectStore.component n = .ok none → Refusal c limit project n (.componentNotFound n)
  | unsearchable {e : Failure} : contains limit n (c.roots project.id) = .ok false →
      c.projectStore.component n = .error e → Refusal c limit project n e

inductive Unordered (d : Dependencies) (roots : List Component) (names : List String) :
    Failure → Prop
  | tooDeep {b : Component} : FirstAtDepth 65 roots b → Unordered d roots names (.treeTooDeep b.name 64)
  | cycle {n : String} : d.OnCycle names n → Unordered d roots names (.invalid (.dependencyCycle n))

open Classical in
/-- What the wanted components are, or why there are none. -/
def SelectionOutcome (c : Catalog) (d : Dependencies) (limit : Nat) (project : Project)
    (selected : List String) (answer : Except Failure (List Component)) : Prop :=
  let roots := c.roots project.id
  let names := Planner.wanted roots selected
  if ∃ n ∈ selected, contains limit n roots ≠ .ok true then
    ∃ n e, LeastStranger limit roots selected n ∧ Refusal c limit project n e ∧ answer = .error e
  else
    answer = d.ordering c.projectStore project names ∧
      ∀ e, answer = .error e → Unordered d roots names e

section

variable {limit : Nat} {roots : List Component} {selected : List String} {n : String}

theorem leastStranger_of_find?
    (found : (nameSet selected).find? (fun n => !decide (contains limit n roots = .ok true)) = some n) :
    LeastStranger limit roots selected n := by
  obtain ⟨named, stranger, least⟩ := least_of_find? found
  refine ⟨named, by simpa using stranger, fun m named strange => ?_⟩
  exact least m named (by simpa using strange)

theorem exists_leastStranger (strange : ¬ ∀ n ∈ selected, contains limit n roots = .ok true) :
    ∃ n, LeastStranger limit roots selected n := by
  cases found : (nameSet selected).find?
      (fun n => !decide (contains limit n roots = .ok true)) with
  | none =>
    refine absurd (fun n named => ?_) strange
    simpa using List.find?_eq_none.mp found n (mem_nameSet.mpr named)
  | some n => exact ⟨n, leastStranger_of_find? found⟩

theorem LeastStranger.find?_eq (first : LeastStranger limit roots selected n) :
    (nameSet selected).find? (fun n => !decide (contains limit n roots = .ok true)) = some n := by
  obtain ⟨named, strange, least⟩ := first
  cases found : (nameSet selected).find?
      (fun n => !decide (contains limit n roots = .ok true)) with
  | none =>
    have member := List.find?_eq_none.mp found n (mem_nameSet.mpr named)
    exact absurd (by simpa using member) strange
  | some m =>
    obtain ⟨named', strange', least'⟩ := leastStranger_of_find? found
    rw [String.le_antisymm (least m named' strange') (least' n named strange)]

end

theorem ordering_unordered {d : Dependencies} {projects : ProjectStore} {project : Project}
    {roots : List Component} {names : List String} {e : Failure}
    (read : projects.roots project.id = .ok roots) (known : ∀ n ∈ names, Occurs roots n)
    (failed : d.ordering projects project names = .error e) : Unordered d roots names e := by
  rcases Nat.lt_or_ge defaultMaxDepth (heightOfAll roots) with deep | low
  · have refused : ∃ b, FirstAtDepth 65 roots b ∧
        d.ordering projects project names = .error (.treeTooDeep b.name 64) :=
      d.ordering_of_deep read deep
    obtain ⟨b, first, answer⟩ := refused
    cases failed.symm.trans answer
    exact .tooDeep first
  · rcases d.ordered_or_onCycle read low known with ⟨ordered, answer, -⟩ | ⟨n, answer, cycle⟩
    · cases failed.symm.trans answer
    · cases failed.symm.trans answer
      exact .cycle cycle

theorem Catalog.exists_of_component {c : Catalog} {n : String} {b : Component}
    (searched : c.projectStore.component n = .ok (some b)) :
    ∃ entry ∈ c.forests, b ∈ preOrder entry.2 ∧ b.name = n := by
  change findComponent n c.forests = .ok (some b) at searched
  have found := found_findComponent n c.forests
  rw [searched] at found
  rcases found with none | ⟨entry, member, found⟩
  · cases none
  · cases found with
    | present occurs named => exact ⟨entry, member, occurs, named⟩

namespace Planner

theorem wanted_occurs {roots : List Component} {selected : List String}
    (known : ∀ n ∈ selected, Occurs roots n) : ∀ n ∈ wanted roots selected, Occurs roots n := by
  intro n member
  rw [wanted] at member
  split at member
  · obtain ⟨c, top, named⟩ := List.mem_map.mp (mem_nameSet.mp member)
    exact ⟨c, mem_preOrder_of_mem top, named⟩
  · exact known n (mem_nameSet.mp member)

theorem checkMembers_cons (p : Planner) (project : Project) (roots : List Component) (n : String)
    (names : List String) :
    p.checkMembers project roots (n :: names) =
      match contains p.maxDepth n roots with
      | .error e => .error e
      | .ok true => p.checkMembers project roots names
      | .ok false =>
        match p.projects.component n with
        | .error e => .error e
        | .ok none => .error (.componentNotFound n)
        | .ok (some _) => .error (.invalid (.foreignComponent n project.name)) := by
  rw [checkMembers]
  cases contains p.maxDepth n roots with
  | error e => rfl
  | ok found =>
    cases found with
    | true => rfl
    | false =>
      cases p.projects.component n with
      | error e => rfl
      | ok found? => cases found? <;> rfl

theorem checkMembers_of_first {p : Planner} {project : Project} {roots : List Component}
    {names : List String} {n : String}
    (first : names.find? (fun n => !decide (contains p.maxDepth n roots = .ok true)) = some n) :
    p.checkMembers project roots names = p.checkMembers project roots [n] := by
  induction names with
  | nil => cases first
  | cons m names ih =>
    by_cases member : contains p.maxDepth m roots = .ok true
    · rw [List.find?_cons_of_neg (by simp [member])] at first
      rw [checkMembers_cons, member]
      exact ih first
    · rw [List.find?_cons_of_pos (by simp [member])] at first
      obtain rfl : m = n := Option.some.inj first
      rw [checkMembers_cons, checkMembers_cons]
      split
      · rfl
      · rename_i found
        exact absurd found member
      · rfl

theorem checkMembers_eq_ok {p : Planner} {project : Project} {roots : List Component}
    {names : List String} (members : ∀ n ∈ names, contains p.maxDepth n roots = .ok true) :
    p.checkMembers project roots names = .ok () := by
  induction names with
  | nil => rfl
  | cons n names ih =>
    obtain ⟨first, rest⟩ := List.forall_mem_cons.mp members
    rw [checkMembers_cons, first]
    exact ih rest

variable {c : Catalog} {d : Dependencies} {limit : Nat} {project : Project}

theorem exists_refusal {n : String} (strange : contains limit n (c.roots project.id) ≠ .ok true) :
    ∃ e, Refusal c limit project n e ∧
      (c.plannerWithin d limit).checkMembers project (c.roots project.id) [n] = .error e := by
  have same : (c.plannerWithin d limit).maxDepth = limit := rfl
  have store : (c.plannerWithin d limit).projects = c.projectStore := rfl
  rw [checkMembers_cons, same, store]
  cases answer : contains limit n (c.roots project.id) with
  | error e =>
    obtain ⟨b, rfl, -⟩ := of_contains_error answer
    exact ⟨_, .tooDeep answer, rfl⟩
  | ok found =>
    cases found with
    | true => exact absurd answer strange
    | false =>
      cases searched : c.projectStore.component n with
      | error e => exact ⟨e, .unsearchable answer searched, rfl⟩
      | ok found? =>
        cases found? with
        | none => exact ⟨_, .unknown answer searched, rfl⟩
        | some b =>
          obtain ⟨entry, member, occurs, named⟩ := Catalog.exists_of_component searched
          -- the search of the project's own forest has not found it, so this is another one
          have other : entry.2 ≠ c.roots project.id := fun same =>
            not_occurs_of_contains answer (same ▸ ⟨b, occurs, named⟩)
          exact ⟨_, .foreign answer searched member other occurs named, rfl⟩

theorem selectionAnswer_eq (c : Catalog) (d : Dependencies) (limit : Nat) (project : Project)
    (selected : List String) :
    (c.plannerWithin d limit).selectionAnswer project selected =
      if (nameSet selected).isEmpty then
        d.ordering c.projectStore project (wanted (c.roots project.id) selected)
      else
        (c.plannerWithin d limit).checkMembers project (c.roots project.id) (nameSet selected) >>=
          fun _ => d.ordering c.projectStore project (wanted (c.roots project.id) selected) := rfl

theorem selectionAnswer_of_members {selected : List String}
    (members : ∀ n ∈ selected, contains limit n (c.roots project.id) = .ok true) :
    (c.plannerWithin d limit).selectionAnswer project selected =
      d.ordering c.projectStore project (wanted (c.roots project.id) selected) := by
  have checked : (c.plannerWithin d limit).checkMembers project (c.roots project.id)
      (nameSet selected) = .ok () :=
    checkMembers_eq_ok fun n member => members n (mem_nameSet.mp member)
  rw [selectionAnswer_eq, checked]
  split <;> rfl

theorem selectionAnswer_of_stranger {selected : List String} {n : String} {e : Failure}
    (first : LeastStranger limit (c.roots project.id) selected n)
    (refused : (c.plannerWithin d limit).checkMembers project (c.roots project.id) [n] = .error e) :
    (c.plannerWithin d limit).selectionAnswer project selected = .error e := by
  have nonempty : (nameSet selected).isEmpty = false := by
    rw [List.isEmpty_eq_false_iff_exists_mem]
    exact ⟨n, mem_nameSet.mpr first.1⟩
  rw [selectionAnswer_eq, nonempty, checkMembers_of_first first.find?_eq, refused]
  rfl

theorem selection_outcome (c : Catalog) (d : Dependencies) (limit : Nat) (project : Project)
    (selected : List String) :
    SelectionOutcome c d limit project selected
      ((c.plannerWithin d limit).selectionAnswer project selected) := by
  rw [SelectionOutcome]
  by_cases members : ∀ n ∈ selected, contains limit n (c.roots project.id) = .ok true
  · have answer := selectionAnswer_of_members (d := d) members
    rw [if_neg (by simpa using members)]
    refine ⟨answer, fun e failed => ?_⟩
    rw [answer] at failed
    exact ordering_unordered rfl (wanted_occurs fun n named => occurs_of_contains (members n named))
      failed
  · obtain ⟨n, first⟩ := exists_leastStranger members
    obtain ⟨e, refusal, refused⟩ := exists_refusal (d := d) first.2.1
    rw [if_pos (by simpa using members)]
    exact ⟨n, e, first, refusal, selectionAnswer_of_stranger first refused⟩

end Planner

end DeployPlan
