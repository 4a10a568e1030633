import Mathlib.Data.List.Perm.Subperm
import Mathlib.Logic.Relation
import DeployPlan.Proofs.FirstOccurrence
import DeployPlan.Proofs.Ordering

/-!
Cycles. A visit follows dependencies along a path without repetition, so it ends before its bound is
reached. It fails only where a path meets itself, on a cycle; and names on a cycle have no order.
-/

namespace DeployPlan.Dependencies

variable {d : Dependencies} {selected : List String}

def Needs (d : Dependencies) (names : List String) (component dependency : String) : Prop :=
  (component, dependency) ∈ d.declared ∧ component ∈ names ∧ dependency ∈ names

instance (names : List String) (component dependency : String) :
    Decidable (d.Needs names component dependency) :=
  inferInstanceAs (Decidable (_ ∧ _ ∧ _))

/-- Among these names, dependencies lead from `n` back to `n`. -/
def OnCycle (d : Dependencies) (names : List String) (n : String) : Prop :=
  Relation.TransGen (d.Needs names) n n

theorem needs_congr {names names' : List String} (same : ∀ n, n ∈ names ↔ n ∈ names') :
    d.Needs names = d.Needs names' := by
  funext component dependency
  simp only [Needs, same]

theorem onCycle_congr {names names' : List String} (same : ∀ n, n ∈ names ↔ n ∈ names')
    (n : String) : d.OnCycle names n ↔ d.OnCycle names' n := by
  rw [OnCycle, OnCycle, needs_congr same]

mutual
/-- A finite visit and its answer. It runs through the dependencies of a name before the name itself,
and nothing bounds how far they lead. -/
inductive Visits (d : Dependencies) (selected : List String) :
    List String → List String → String → Except Failure (List String) → Prop where
  | placed {path placed : List String} {name : String} :
      name ∈ placed → Visits d selected path placed name (.ok placed)
  | cycle {path placed : List String} {name : String} :
      name ∉ placed → name ∈ path →
      Visits d selected path placed name (.error (.invalid (.dependencyCycle name)))
  | visit {path placed : List String} {name : String} {answer : Except Failure (List String)} :
      name ∉ placed → name ∉ path →
      VisitsAll d selected (name :: path) placed ((d.of name).filter (· ∈ selected)) answer →
      Visits d selected path placed name (answer.map (· ++ [name]))

inductive VisitsAll (d : Dependencies) (selected : List String) :
    List String → List String → List String → Except Failure (List String) → Prop where
  | nil {path placed : List String} : VisitsAll d selected path placed [] (.ok placed)
  | fail {path placed names : List String} {name : String} {e : Failure} :
      Visits d selected path placed name (.error e) →
      VisitsAll d selected path placed (name :: names) (.error e)
  | cons {path placed next names : List String} {name : String}
      {answer : Except Failure (List String)} :
      Visits d selected path placed name (.ok next) →
      VisitsAll d selected path next names answer →
      VisitsAll d selected path placed (name :: names) answer
end

theorem visitsAll_foldlM {path names : List String}
    {visit : List String → String → Except Failure (List String)}
    (each : ∀ n ∈ names, ∀ placed, Visits d selected path placed n (visit placed n))
    (placed : List String) :
    VisitsAll d selected path placed names (names.foldlM visit placed) := by
  induction names generalizing placed with
  | nil => exact .nil
  | cons name names ih =>
    obtain ⟨head, tail⟩ := List.forall_mem_cons.mp each
    have first := head placed
    rw [List.foldlM_cons]
    cases answer : visit placed name with
    | error e => exact .fail (answer ▸ first)
    | ok next => exact .cons (answer ▸ first) (ih tail next)

theorem exists_of_foldlM_error {names placed : List String} {e : Failure}
    {visit : List String → String → Except Failure (List String)}
    (failed : names.foldlM visit placed = .error e) :
    ∃ n ∈ names, ∃ placed, visit placed n = .error e := by
  induction names generalizing placed with
  | nil => cases failed
  | cons name names ih =>
    rw [List.foldlM_cons] at failed
    cases answer : visit placed name with
    | error f =>
      rw [answer] at failed
      cases failed
      exact ⟨name, List.mem_cons_self, placed, answer⟩
    | ok next =>
      rw [answer] at failed
      obtain ⟨n, member, rest⟩ := ih failed
      exact ⟨n, List.mem_cons_of_mem name member, rest⟩

/-- `path` holds selected names, each once, and dependencies lead from each of them to `name`. -/
structure Leads (d : Dependencies) (selected path : List String) (name : String) : Prop where
  nodup : path.Nodup
  subset : path ⊆ selected
  chosen : name ∈ selected
  reaches : ∀ n ∈ path, Relation.TransGen (d.Needs selected) n name

theorem leads_nil {name : String} (chosen : name ∈ selected) : Leads d selected [] name where
  nodup := List.nodup_nil
  subset := List.nil_subset selected
  chosen := chosen
  reaches := by simp

namespace Leads

variable {path : List String} {name : String}

theorem step (leads : Leads d selected path name) (offPath : name ∉ path) {dependency : String}
    (next : dependency ∈ (d.of name).filter (· ∈ selected)) :
    Leads d selected (name :: path) dependency := by
  obtain ⟨declared, chosen⟩ := List.mem_filter.mp next
  have edge : d.Needs selected name dependency :=
    ⟨mem_of_iff.mp declared, leads.chosen, of_decide_eq_true chosen⟩
  refine ⟨List.nodup_cons.mpr ⟨offPath, leads.nodup⟩,
    List.cons_subset.mpr ⟨leads.chosen, leads.subset⟩, edge.2.2, ?_⟩
  intro n member
  rcases List.mem_cons.mp member with rfl | member
  · exact .single edge
  · exact (leads.reaches n member).tail edge

theorem length_le (leads : Leads d selected path name) : path.length ≤ selected.length :=
  (List.subperm_of_subset leads.nodup leads.subset).length_le

end Leads

theorem visit_succ {fuel : Nat} {path placed : List String} {name : String} :
    d.visit selected (fuel + 1) path placed name =
      if name ∈ placed then .ok placed
      else if name ∈ path then .error (.invalid (.dependencyCycle name))
      else (((d.of name).filter (· ∈ selected)).foldlM
        (fun placed dependency => d.visit selected fuel (name :: path) placed dependency)
          placed).map (· ++ [name]) := by
  have chosen : selected.contains = fun n => decide (n ∈ selected) :=
    funext fun n => List.contains_eq_mem n selected
  rw [visit, chosen]
  simp only [List.contains_eq_mem, decide_eq_true_eq]
  refine if_congr Iff.rfl rfl (if_congr Iff.rfl rfl ?_)
  cases ((d.of name).filter (· ∈ selected)).foldlM
    (fun placed dependency => d.visit selected fuel (name :: path) placed dependency) placed <;> rfl

theorem visits_visit {fuel : Nat} {path : List String} {name : String}
    (leads : Leads d selected path name) (room : selected.length < fuel + path.length)
    (placed : List String) :
    Visits d selected path placed name (d.visit selected fuel path placed name) := by
  -- A path repeats no name, so `room` keeps the fuel from running out.
  induction fuel generalizing path placed name with
  | zero =>
    have short := leads.length_le
    omega
  | succ fuel ih =>
    rw [visit_succ]
    split
    · rename_i present
      exact .placed present
    · rename_i absent
      split
      · rename_i onPath
        exact .cycle absent onPath
      · rename_i offPath
        refine .visit absent offPath (visitsAll_foldlM ?_ placed)
        intro n member placed
        refine ih (leads.step offPath member) ?_ placed
        simp only [List.length_cons]
        omega

theorem visit_error {fuel : Nat} {path placed : List String} {name : String} {e : Failure}
    (leads : Leads d selected path name) (room : selected.length < fuel + path.length)
    (failed : d.visit selected fuel path placed name = .error e) :
    ∃ n, e = .invalid (.dependencyCycle n) ∧ d.OnCycle selected n := by
  -- A path repeats no name, so `room` keeps the fuel from being the reason.
  induction fuel generalizing path placed name with
  | zero =>
    have short := leads.length_le
    omega
  | succ fuel ih =>
    rw [visit_succ] at failed
    split at failed
    · cases failed
    · split at failed
      · rename_i onPath
        cases failed
        exact ⟨name, rfl, leads.reaches name onPath⟩
      · rename_i offPath
        cases inner : ((d.of name).filter (· ∈ selected)).foldlM
          (fun placed dependency => d.visit selected fuel (name :: path) placed dependency)
            placed with
        | ok before =>
          rw [inner] at failed
          cases failed
        | error f =>
          rw [inner] at failed
          cases failed
          obtain ⟨n, member, placed, failed⟩ := exists_of_foldlM_error inner
          refine ih (leads.step offPath member) ?_ failed
          simp only [List.length_cons]
          omega

theorem visitsAll_arrange (d : Dependencies) (selected : List String) :
    VisitsAll d selected [] [] selected (d.arrange selected) := by
  refine visitsAll_foldlM (fun n chosen placed => ?_) []
  exact visits_visit (leads_nil chosen) (by simp) placed

theorem arrange_error {e : Failure} (failed : d.arrange selected = .error e) :
    ∃ n, e = .invalid (.dependencyCycle n) ∧ d.OnCycle selected n := by
  obtain ⟨n, chosen, placed, failed⟩ := exists_of_foldlM_error failed
  exact visit_error (leads_nil chosen) (by simp) failed

namespace Ordered

variable {roots ordered : List Component} {names : List String}

theorem idxOf_lt (arranged : d.Ordered roots names ordered) {component dependency : String}
    (needs : d.Needs names component dependency) :
    (ordered.map (·.name)).idxOf dependency < (ordered.map (·.name)).idxOf component := by
  obtain ⟨declared, chosen, required⟩ := needs
  obtain ⟨c, member, rfl⟩ := List.mem_map.mp ((arranged.mem_iff component).mpr chosen)
  obtain ⟨before, after, rfl⟩ := List.append_of_mem member
  have earlier : dependency ∈ before.map (·.name) :=
    arranged.behind before c after rfl dependency (mem_of_iff.mpr declared) required
  have fresh : c.name ∉ before.map (·.name) := by
    have apart := arranged.nodup
    rw [List.map_append, List.map_cons, List.nodup_append] at apart
    intro again
    exact apart.2.2 _ again _ List.mem_cons_self rfl
  rw [List.map_append, idxOf_append_lt_iff, if_neg fresh]
  exact Or.inl earlier

theorem not_onCycle (arranged : d.Ordered roots names ordered) (n : String) :
    ¬ d.OnCycle names n := by
  intro cycle
  have descent : ∀ m, Relation.TransGen (d.Needs names) n m →
      (ordered.map (·.name)).idxOf m < (ordered.map (·.name)).idxOf n := by
    intro m reach
    induction reach with
    | single needs => exact arranged.idxOf_lt needs
    | tail _ needs ih => exact Nat.lt_trans (arranged.idxOf_lt needs) ih
  exact Nat.lt_irrefl _ (descent n cycle)

end Ordered

end DeployPlan.Dependencies
