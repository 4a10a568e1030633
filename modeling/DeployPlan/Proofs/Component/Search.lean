import DeployPlan.Catalog
import DeployPlan.Proofs.Component.Depth
import DeployPlan.Proofs.Steps

/-!
Searches. A search for a name goes through a forest in declaration order and ends at the first
component that lies too deep or bears the name. All searches agree on that component: it is found
where it is not too deep.
-/

namespace DeployPlan

namespace Component

variable {limit : Nat} {name : String} {roots : List Component}

/-- The step at which a search ends before the end of the walk. -/
def decisive? (limit : Nat) (name : String) (walk : List (Nat × Component)) :
    Option (Nat × Component) :=
  walk.find? fun step => limit < step.1 || step.2.name == name

def answerAt (limit : Nat) : Option (Nat × Component) → Except Failure (Option Component)
  | none => .ok none
  | some (depth, c) => if limit < depth then .error (.treeTooDeep c.name limit) else .ok (some c)

theorem decisive?_cons {step : Nat × Component} {walk : List (Nat × Component)} :
    decisive? limit name (step :: walk) =
      if limit < step.1 ∨ step.2.name = name then some step else decisive? limit name walk := by
  rw [decisive?]
  by_cases decides : limit < step.1 ∨ step.2.name = name
  · rw [if_pos decides, List.find?_cons_of_pos (by simpa using decides)]
  · rw [if_neg decides, List.find?_cons_of_neg (by simpa using decides)]
    rfl

theorem decisive?_append (walk rest : List (Nat × Component)) :
    decisive? limit name (walk ++ rest) =
      (decisive? limit name walk).or (decisive? limit name rest) :=
  List.find?_append

theorem answerAt_some_ne_none (step : Nat × Component) : answerAt limit (some step) ≠ .ok none := by
  obtain ⟨depth, c⟩ := step
  rw [answerAt]
  split <;> simp

theorem findBelow_eq (depth : Nat) (c : Component) :
    findBelow limit depth name c =
      if depth > limit then .error (.treeTooDeep c.name limit)
      else if c.name = name then .ok (some c)
      else findAt limit (depth + 1) name c.children := by
  cases c
  rw [findBelow]

theorem findAt_eq (depth : Nat) (cs : List Component) :
    findAt limit depth name cs =
      answerAt limit (decisive? limit name (withDepthsOfAll depth cs)) := by
  induction cs using forest_induction generalizing depth with
  | nil => simp [findAt, withDepthsOfAll, decisive?, answerAt]
  | cons c cs below others =>
    rw [findAt, findBelow_eq, withDepthsOfAll_cons, List.cons_append, decisive?_cons]
    by_cases deep : limit < depth
    · rw [if_pos deep, if_pos (Or.inl deep), answerAt, if_pos deep]
    · rw [if_neg deep]
      by_cases named : c.name = name
      · rw [if_pos named, if_pos (Or.inr named), answerAt, if_neg deep]
      · rw [if_neg named, if_neg (not_or.mpr ⟨deep, named⟩), decisive?_append, below]
        -- either something below the component decides, or the search goes on beside it
        cases decisive? limit name (withDepthsOfAll (depth + 1) c.children) with
        | none => exact others depth
        | some step =>
          rw [Option.some_or]
          split
          · rename_i undecided
            exact absurd undecided (answerAt_some_ne_none step)
          · rfl

theorem findNamed_eq (limit : Nat) (name : String) (roots : List Component) :
    findNamed limit name roots =
      answerAt limit (decisive? limit name (withDepthsOfAll 1 roots)) :=
  findAt_eq 1 roots

theorem containsBelow_eq (depth : Nat) (c : Component) :
    containsBelow limit depth name c =
      if depth > limit then .error (.treeTooDeep c.name limit)
      else if c.name = name then .ok true
      else containsAt limit (depth + 1) name c.children := by
  cases c
  rw [containsBelow]

theorem containsAt_eq (depth : Nat) (cs : List Component) :
    containsAt limit depth name cs =
      (answerAt limit (decisive? limit name (withDepthsOfAll depth cs))).map Option.isSome := by
  -- In the order of the walk: the component itself, what is below it, then its neighbours.
  induction cs using forest_induction generalizing depth with
  | nil => simp [containsAt, withDepthsOfAll, decisive?, answerAt, Except.map]
  | cons c cs below others =>
    rw [containsAt, containsBelow_eq, withDepthsOfAll_cons, List.cons_append, decisive?_cons]
    by_cases deep : limit < depth
    · rw [if_pos deep, if_pos (Or.inl deep), answerAt, if_pos deep]
      rfl
    · rw [if_neg deep]
      by_cases named : c.name = name
      · rw [if_pos named, if_pos (Or.inr named), answerAt, if_neg deep]
        rfl
      · rw [if_neg named, if_neg (not_or.mpr ⟨deep, named⟩), decisive?_append, below]
        cases decisive? limit name (withDepthsOfAll (depth + 1) c.children) with
        | none => exact others depth
        | some step =>
          obtain ⟨deeper, found⟩ := step
          rw [Option.some_or, answerAt]
          split
          · rename_i undecided
            split at undecided <;> cases undecided
          · rfl

theorem contains_eq (limit : Nat) (name : String) (roots : List Component) :
    contains limit name roots = (findNamed limit name roots).map Option.isSome := by
  rw [findNamed_eq]
  exact containsAt_eq 1 roots

inductive Found (limit : Nat) (name : String) (roots : List Component) :
    Except Failure (Option Component) → Prop
  | tooDeep {c : Component} : limit < heightOfAll roots →
      Found limit name roots (.error (.treeTooDeep c.name limit))
  | absent : ¬ Occurs roots name → Found limit name roots (.ok none)
  | present {c : Component} : c ∈ preOrder roots → c.name = name →
      Found limit name roots (.ok (some c))

theorem found_findNamed (limit : Nat) (name : String) (roots : List Component) :
    Found limit name roots (findNamed limit name roots) := by
  rw [findNamed_eq, decisive?]
  cases ended : (withDepthsOfAll 1 roots).find? (fun step => limit < step.1 || step.2.name == name) with
  | none =>
    refine .absent ?_
    rintro ⟨c, member, named⟩
    obtain ⟨step, met, rfl⟩ := List.mem_map.mp member
    have passed := List.find?_eq_none.mp ended step met
    simp [named] at passed
  | some step =>
    obtain ⟨depth, c⟩ := step
    have met := List.mem_of_find?_eq_some ended
    by_cases deep : limit < depth
    · rw [answerAt, if_pos deep]
      refine .tooDeep ?_
      obtain ⟨path, descends, -, rfl⟩ := mem_withDepthsOfAll_iff.mp met
      exact exists_path_iff.mp ⟨path, descends, by simpa using deep⟩
    · have reason := List.find?_some ended
      rw [answerAt, if_neg deep]
      exact .present (List.mem_map_of_mem met) (by simpa [deep] using reason)

theorem of_contains_error {e : Failure} (failed : contains limit name roots = .error e) :
    ∃ c : Component, e = .treeTooDeep c.name limit ∧ limit < heightOfAll roots := by
  have found := found_findNamed limit name roots
  rw [contains_eq] at failed
  cases answer : findNamed limit name roots with
  | error f =>
    rw [answer] at failed found
    cases failed
    cases found with
    | tooDeep high => exact ⟨_, rfl, high⟩
  | ok found? =>
    rw [answer] at failed
    cases failed

theorem occurs_of_contains (answered : contains limit name roots = .ok true) :
    Occurs roots name := by
  have found := found_findNamed limit name roots
  rw [contains_eq] at answered
  obtain ⟨found?, answer, some⟩ := map_eq_ok_iff.mp answered
  rw [answer] at found
  cases found with
  | absent _ => cases some
  | present member named => exact ⟨_, member, named⟩

theorem not_occurs_of_contains (answered : contains limit name roots = .ok false) :
    ¬ Occurs roots name := by
  have found := found_findNamed limit name roots
  rw [contains_eq] at answered
  obtain ⟨found?, answer, none⟩ := map_eq_ok_iff.mp answered
  rw [answer] at found
  cases found with
  | absent absent => exact absent
  | present _ _ => cases none

end Component

namespace Catalog

open Component

theorem findComponent_cases (n : String) (forests : List (UInt64 × List Component)) :
    (findComponent n forests = .ok none ∧
      ∀ entry ∈ forests, findNamed defaultMaxDepth n entry.2 = .ok none) ∨
    (findComponent n forests ≠ .ok none ∧
      ∃ entry ∈ forests, findNamed defaultMaxDepth n entry.2 = findComponent n forests) := by
  induction forests with
  | nil => exact .inl ⟨rfl, by simp⟩
  | cons entry forests ih =>
    obtain ⟨id, forest⟩ := entry
    rw [findComponent]
    split
    · rename_i undecided
      rcases ih with ⟨nothing, rest⟩ | ⟨decided, entry, member, answer⟩
      · exact .inl ⟨nothing, List.forall_mem_cons.mpr ⟨undecided, rest⟩⟩
      · exact .inr ⟨decided, entry, List.mem_cons_of_mem _ member, answer⟩
    · rename_i decided
      exact .inr ⟨decided, (id, forest), List.mem_cons_self, rfl⟩

theorem found_findComponent (name : String) (forests : List (UInt64 × List Component)) :
    findComponent name forests = .ok none ∨
      ∃ entry ∈ forests, Found defaultMaxDepth name entry.2 (findComponent name forests) := by
  rcases findComponent_cases name forests with ⟨nothing, -⟩ | ⟨-, entry, member, answer⟩
  · exact .inl nothing
  · exact .inr ⟨entry, member, answer ▸ found_findNamed defaultMaxDepth name entry.2⟩

end Catalog

end DeployPlan
