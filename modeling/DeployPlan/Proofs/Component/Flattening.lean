import DeployPlan.Proofs.Component.Depth
import DeployPlan.Proofs.FirstOccurrence

/-!
Flattening. One visit of a forest with the names met so far collects what the forest deploys: the
names of its deployable components in declaration order, each where it stands first. The visit fails
at the first component below its bound.
-/

namespace DeployPlan.Component

theorem eraseDups_concat {β : Type} [DecidableEq β] (l : List β) (a : β) :
    (l ++ [a]).eraseDups = if a ∈ l then l.eraseDups else l.eraseDups ++ [a] := by
  rw [List.eraseDups_append]
  by_cases present : a ∈ l
  · simp [List.removeAll, present]
  · simp [List.removeAll, present, List.eraseDups_cons]

def scripted (cs : List Component) : List String := (cs.filter deployable).map (·.name)

theorem scripted_append (cs ds : List Component) :
    scripted (cs ++ ds) = scripted cs ++ scripted ds := by
  rw [scripted, List.filter_append, List.map_append]
  rfl

theorem scripted_cons (c : Component) (cs : List Component) :
    scripted (c :: cs) = scripted [c] ++ scripted cs :=
  scripted_append [c] cs

theorem deployed_eq_scripted (roots : List Component) :
    deployed roots = scripted (preOrder roots) := rfl

variable {limit depth : Nat} {roots : List Component}

theorem collectBelow_eraseDups (met : List String) (c : Component) :
    collectBelow limit depth met.eraseDups c =
      if depth > limit then .error (.treeTooDeep c.name limit)
      else collectAt limit (depth + 1) (met ++ scripted [c]).eraseDups c.children := by
  obtain ⟨n, script, cs⟩ := c
  rw [collectBelow]
  by_cases deep : depth > limit
  · rw [if_pos deep, if_pos deep]
  · rw [if_neg deep, if_neg deep]
    by_cases bare : script.isEmpty
    · have none : scripted [⟨n, script, cs⟩] = [] := by simp [scripted, deployable, bare]
      simp [none, bare]
    · have one : scripted [⟨n, script, cs⟩] = [n] := by simp [scripted, deployable, bare]
      rw [one, eraseDups_concat]
      by_cases present : n ∈ met
      · simp [present]
      · simp [present, bare]

theorem collectAt_eraseDups (depth : Nat) (met : List String) (cs : List Component) :
    collectAt limit depth met.eraseDups cs =
      (within.go limit (withDepthsOfAll depth cs)).map fun found =>
        (met ++ scripted found).eraseDups := by
  induction cs using forest_induction generalizing depth met with
  | nil => simp [collectAt, withDepthsOfAll, within.go, Except.map, scripted]
  | cons c cs below others =>
    rw [collectAt, collectBelow_eraseDups, withDepthsOfAll_cons, List.cons_append, within.go]
    by_cases deep : depth > limit
    · rw [if_pos deep, if_pos deep]
      rfl
    · rw [if_neg deep, if_neg deep, below, within_go_append]
      cases within.go limit (withDepthsOfAll (depth + 1) c.children) with
      | error e => rfl
      | ok inner =>
        simp only [Except.map, Except.bind, others]
        cases within.go limit (withDepthsOfAll depth cs) with
        | error e => rfl
        | ok outer =>
          have whole : met ++ scripted [c] ++ scripted inner ++ scripted outer =
              met ++ scripted (c :: (inner ++ outer)) := by
            rw [scripted_cons c (inner ++ outer), scripted_append]
            simp only [List.append_assoc]
          simp only [whole]

theorem deployableNames_eq (limit : Nat) (roots : List Component) :
    deployableNames limit roots = (within limit roots).map fun found => (scripted found).eraseDups := by
  rw [deployableNames, within, ← List.eraseDups_nil, collectAt_eraseDups]
  simp only [List.nil_append]

theorem eq_of_deployableNames {names : List String}
    (flattened : deployableNames limit roots = .ok names) : names = (deployed roots).eraseDups := by
  rw [deployableNames_eq] at flattened
  cases walk : within limit roots with
  | error e => rw [walk] at flattened; cases flattened
  | ok cs =>
    rw [walk] at flattened
    rw [← Except.ok.inj flattened, (within_eq_ok_iff.mp walk).2, deployed_eq_scripted]

theorem deployableNames_of_low (low : heightOfAll roots ≤ limit) :
    deployableNames limit roots = .ok (deployed roots).eraseDups := by
  rw [deployableNames_eq, within_eq_preOrder low, deployed_eq_scripted]
  rfl

theorem deployableNames_of_deep (deep : limit < heightOfAll roots) :
    ∃ c, FirstAtDepth (limit + 1) roots c ∧
      deployableNames limit roots = .error (.treeTooDeep c.name limit) := by
  obtain ⟨c, first⟩ := exists_firstAtDepth_iff.mpr deep
  refine ⟨c, first, ?_⟩
  rw [deployableNames_eq, within_eq_error_iff.mpr ⟨c, first, rfl⟩]
  rfl

theorem heightOfAll_le_of_deployableNames {names : List String}
    (flattened : deployableNames limit roots = .ok names) : heightOfAll roots ≤ limit := by
  by_contra high
  obtain ⟨c, -, failed⟩ := deployableNames_of_deep (Nat.lt_of_not_le high)
  cases flattened.symm.trans failed

/-- What a forest deploys, each name once: the names of the deployable components that some path leads
to, in the order of their first deployable bearers. -/
structure Flattened (roots : List Component) (names : List String) : Prop where
  eq_eraseDups : names = (deployed roots).eraseDups
  nodup : names.Nodup
  mem_iff : ∀ n, n ∈ names ↔ ∃ path c, Path roots path ∧ path.getLast? = some c ∧
    c.scriptPath ≠ "" ∧ c.name = n
  in_order : ∀ m n, names.idxOf m < names.idxOf n ↔
    (deployed roots).idxOf m < (deployed roots).idxOf n

theorem flattened_deployed (roots : List Component) :
    Flattened roots (deployed roots).eraseDups where
  eq_eraseDups := rfl
  nodup := nodup_eraseDups _
  mem_iff := by
    intro n
    rw [List.mem_eraseDups, mem_deployed_iff]
    constructor
    · rintro ⟨c, member, deployable, name⟩
      obtain ⟨path, descends, last⟩ := mem_preOrder_iff_path.mp member
      exact ⟨path, c, descends, last, by simpa [Component.deployable] using deployable, name⟩
    · rintro ⟨path, c, descends, last, script, name⟩
      have member := mem_preOrder_iff_path.mpr ⟨path, descends, last⟩
      exact ⟨c, member, by simpa [Component.deployable] using script, name⟩
  in_order m n := idxOf_eraseDups_lt_iff m n _

open Classical in
/-- A forest none of whose paths is longer than the limit is flattened; any other one is refused at the
first component that lies too deep. -/
theorem flattening_outcome (limit : Nat) (roots : List Component) :
    if ∀ path, Path roots path → path.length ≤ limit then
      ∃ names, deployableNames limit roots = .ok names ∧ Flattened roots names
    else
      ∃ c, FirstAtDepth (limit + 1) roots c ∧
        deployableNames limit roots = .error (.treeTooDeep c.name limit) := by
  split
  · rename_i short
    have low := heightOfAll_le_iff.mpr short
    exact ⟨_, deployableNames_of_low low, flattened_deployed roots⟩
  · rename_i long
    have deep : limit < heightOfAll roots := by
      rw [← Nat.not_le, heightOfAll_le_iff]
      exact long
    exact deployableNames_of_deep deep

end DeployPlan.Component
