import Mathlib.Data.List.Perm.Basic
import DeployPlan.Proofs.FirstOccurrence
import DeployPlan.Scope.Resolution

/-!
Groups. The keys of a list come in the order of their first occurrence, each once, and each has the
values that stand under it, in their order. Cutting a list up by the keys of its elements loses none and
repeats none.
-/

namespace DeployPlan.Scope

variable {α : Type}

def valuesAt (l : List (String × α)) (key : String) : List α :=
  (l.filter (·.1 == key)).map (·.2)

theorem valuesAt_cons_of_ne {k k' : String} (other : k' ≠ k) (a : α) (l : List (String × α)) :
    valuesAt ((k, a) :: l) k' = valuesAt l k' := by
  simp [valuesAt, other.symm]

theorem grouped_eq (l : List (String × α)) :
    grouped l = (l.map (·.1)).eraseDups.map fun k => (k, valuesAt l k) := by
  induction l with
  | nil => rfl
  | cons entry l ih =>
    obtain ⟨k, a⟩ := entry
    have first : valuesAt ((k, a) :: l) k = a :: valuesAt l k := by simp [valuesAt]
    have others : (grouped l).filter (·.1 != k) =
        ((l.map (·.1)).eraseDups.filter (fun b => !b == k)).map
          fun k' => (k', valuesAt ((k, a) :: l) k') := by
      rw [ih, List.filter_map]
      refine List.map_congr_left fun k' member => ?_
      have other : k' ≠ k := by simpa using (List.mem_filter.mp member).2
      rw [valuesAt_cons_of_ne other]
    rw [grouped, others, List.map_cons, List.eraseDups_cons, eraseDups_filter, List.map_cons, first]
    rfl

theorem keys_grouped (l : List (String × α)) :
    (grouped l).map (·.1) = (l.map (·.1)).eraseDups := by
  rw [grouped_eq, List.map_map]
  simp [Function.comp_def]

theorem grouped_ne_nil {l : List (String × α)} {group : String × List α}
    (member : group ∈ grouped l) : group.2 ≠ [] := by
  rw [grouped_eq] at member
  obtain ⟨k, known, rfl⟩ := List.mem_map.mp member
  obtain ⟨entry, found, rfl⟩ := List.mem_map.mp (List.mem_eraseDups.mp known)
  apply List.ne_nil_of_mem (a := entry.2)
  apply List.mem_map_of_mem
  simpa using found

theorem flatMap_filter_perm {κ : Type} [BEq κ] [LawfulBEq κ] (key : α → κ) {keys : List κ}
    (distinct : keys.Nodup) {l : List α} (covered : ∀ a ∈ l, key a ∈ keys) :
    (keys.flatMap fun k => l.filter (key · == k)).Perm l := by
  induction keys generalizing l with
  | nil =>
    have none : l = [] := List.eq_nil_iff_forall_not_mem.mpr fun a member => by
      simpa using covered a member
    simp [none]
  | cons k keys ih =>
    obtain ⟨fresh, rest⟩ := List.nodup_cons.mp distinct
    -- The keys that are left group what the first key has not taken.
    let remaining := l.filter fun a => !(key a == k)
    have others : (keys.flatMap fun k' => l.filter (key · == k')) =
        keys.flatMap fun k' => remaining.filter (key · == k') := by
      apply List.flatMap_congr
      intro k' member
      have different : k' ≠ k := fun same => fresh (same ▸ member)
      rw [List.filter_filter]
      apply List.filter_congr
      intro a _
      by_cases same : key a = k'
      · simp [same, different]
      · simp [same]
    have parts := ih rest (l := remaining) fun a member => by
      obtain ⟨known, other⟩ := List.mem_filter.mp member
      have different : key a ≠ k := by simpa using other
      exact (List.mem_cons.mp (covered a known)).resolve_left different
    rw [List.flatMap_cons, others]
    exact (parts.append_left _).trans (List.filter_append_perm _ l)

end DeployPlan.Scope
