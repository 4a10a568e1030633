import DeployPlan.Keyed
import DeployPlan.Proofs.Component.Search

/-!
The order in which forests are searched. Nothing else in a catalog depends on it: a forest is found by
its number. A search of all forests ends at the first one that decides, by holding the name or by being
too deep; so each forest that decides gives the answer in some order, and no other answer is given.
-/

namespace DeployPlan.Catalog

open Component

abbrev inOrder (c : Catalog) (forests : List (UInt64 × List Component)) : Catalog :=
  { c with forests := forests }

variable {c : Catalog} {forests : List (UInt64 × List Component)} {n : String}

theorem roots_inOrder (distinct : (c.forests.map (·.1)).Nodup) (same : forests.Perm c.forests)
    (project : UInt64) : (c.inOrder forests).roots project = c.roots project := by
  rw [roots, roots, lookup_perm same distinct]

theorem findComponent_cons_of_decided {entry : UInt64 × List Component}
    (decided : findNamed defaultMaxDepth n entry.2 ≠ .ok none) :
    findComponent n (entry :: forests) = findNamed defaultMaxDepth n entry.2 := by
  obtain ⟨id, forest⟩ := entry
  rw [findComponent]
  split
  · rename_i undecided
    exact absurd undecided decided
  · rfl

theorem exists_findComponent_iff (answer : Except Failure (Option Component)) :
    (∃ order : List (UInt64 × List Component), order.Perm forests ∧ findComponent n order = answer) ↔
      (answer ≠ .ok none ∧ ∃ entry ∈ forests, findNamed defaultMaxDepth n entry.2 = answer) ∨
      (answer = .ok none ∧ ∀ entry ∈ forests, findNamed defaultMaxDepth n entry.2 = .ok none) := by
  constructor
  · rintro ⟨order, same, rfl⟩
    rcases findComponent_cases n order with ⟨nothing, undecided⟩ | ⟨decided, entry, member, answer⟩
    · exact .inr ⟨nothing, fun entry member => undecided entry (same.mem_iff.mpr member)⟩
    · exact .inl ⟨decided, entry, same.mem_iff.mp member, answer⟩
  · rintro (⟨decided, entry, member, rfl⟩ | ⟨rfl, undecided⟩)
    · -- the forest that decides is searched first
      obtain ⟨before, behind, rfl⟩ := List.append_of_mem member
      exact ⟨entry :: (before ++ behind), List.perm_middle.symm, findComponent_cons_of_decided decided⟩
    · refine ⟨forests, .refl _, ?_⟩
      rcases findComponent_cases n forests with ⟨nothing, -⟩ | ⟨decided, entry, member, answer⟩
      · exact nothing
      · exact absurd (answer.symm.trans (undecided entry member)) decided

end DeployPlan.Catalog
