import Mathlib
import DeployPlan.Catalog
import DeployPlan.Proofs.Component.Depth
import DeployPlan.Proofs.Ordering.Cycle

/-!
What ordering answers. A selection is put in order unless the forest is too deep, a name is missing or
dependencies among the selected names form a cycle; the first of these that applies is the failure.
-/

namespace DeployPlan

open Component

def chosen (roots : List Component) (names : List String) : List Component :=
  (firstOfEachName (preOrder roots)).filter (names.contains ·.name)

theorem mem_firstOfEachName_names {n : String} {cs : List Component} :
    n ∈ (firstOfEachName cs).map (·.name) ↔ n ∈ cs.map (·.name) := by
  constructor
  · intro member
    obtain ⟨c, first, rfl⟩ := List.mem_map.mp member
    exact List.mem_map_of_mem (List.mem_of_find?_eq_some (mem_firstOfEachName.mp first))
  · intro member
    obtain ⟨b, present, rfl⟩ := List.mem_map.mp member
    cases found : cs.find? (·.name == b.name) with
    | none => exact absurd (beq_self_eq_true b.name) (List.find?_eq_none.mp found b present)
    | some c =>
      have named : c.name = b.name := by simpa using List.find?_some found
      rw [← named] at found ⊢
      exact List.mem_map_of_mem (mem_firstOfEachName.mpr found)

theorem mem_chosen_names {n : String} {roots : List Component} {names : List String} :
    n ∈ (chosen roots names).map (·.name) ↔ n ∈ names ∧ Occurs roots n := by
  have occurs : Occurs roots n ↔ n ∈ (firstOfEachName (preOrder roots)).map (·.name) := by
    rw [mem_firstOfEachName_names, List.mem_map]
    rfl
  rw [occurs, chosen, List.mem_map, List.mem_map]
  constructor
  · rintro ⟨c, member, rfl⟩
    obtain ⟨first, named⟩ := List.mem_filter.mp member
    exact ⟨List.contains_iff_mem.mp named, c, first, rfl⟩
  · rintro ⟨named, c, first, rfl⟩
    exact ⟨c, List.mem_filter.mpr ⟨first, List.contains_iff_mem.mpr named⟩, rfl⟩

theorem pairwise_nameSet (names : List String) : (nameSet names).Pairwise (· ≤ ·) := by
  have trans : ∀ a b c : String, decide (a ≤ b) = true → decide (b ≤ c) = true →
      decide (a ≤ c) = true := by
    intro a b c ab bc
    simp only [decide_eq_true_eq] at ab bc ⊢
    exact String.le_trans ab bc
  have total : ∀ a b : String, (decide (a ≤ b) || decide (b ≤ a)) = true := by
    intro a b
    simpa using String.le_total a b
  have sorted := List.pairwise_mergeSort trans total names.eraseDups
  simpa [nameSet] using sorted

theorem ascending_nameSet (names : List String) : (nameSet names).Pairwise (· < ·) := by
  have distinct : (nameSet names).Nodup :=
    (List.mergeSort_perm names.eraseDups _).nodup_iff.mpr (nodup_eraseDups names)
  apply ((pairwise_nameSet names).and distinct).imp
  rintro a b ⟨le, ne⟩
  exact lt_of_le_of_ne le ne

/-- The least of the names that do not occur in the forest. -/
def LeastMissing (roots : List Component) (names : List String) (n : String) : Prop :=
  n ∈ names ∧ ¬ Occurs roots n ∧ ∀ m ∈ names, ¬ Occurs roots m → n ≤ m

def missing? (roots : List Component) (names : List String) : Option String :=
  (nameSet names).find? fun n => !(chosen roots names).any (·.name == n)

theorem unchosen_iff {n : String} {roots : List Component} {names : List String}
    (named : n ∈ names) : (!(chosen roots names).any (·.name == n)) = true ↔ ¬ Occurs roots n := by
  have known : (chosen roots names).any (·.name == n) = true ↔
      n ∈ (chosen roots names).map (·.name) := by simp
  rw [Bool.not_eq_true', ← Bool.not_eq_true, known, mem_chosen_names, and_iff_right named]

theorem least_of_find? {names : List String} {p : String → Bool} {n : String}
    (found : (nameSet names).find? p = some n) :
    n ∈ names ∧ p n = true ∧ ∀ m ∈ names, p m = true → n ≤ m := by
  obtain ⟨wanted, before, after, split, others⟩ := List.find?_eq_some_iff_append.mp found
  have sorted := pairwise_nameSet names
  rw [split] at sorted
  have named : n ∈ names := mem_nameSet.mp (split ▸ by simp)
  refine ⟨named, wanted, fun m named too => ?_⟩
  have member := mem_nameSet.mpr named
  rw [split] at member
  rcases List.mem_append.mp member with earlier | later
  · have kept := others m earlier
    rw [too] at kept
    cases kept
  · rcases List.mem_cons.mp later with rfl | later
    · exact String.le_refl m
    · exact List.rel_of_pairwise_cons (List.pairwise_append.mp sorted).2.1 later

theorem missing?_eq_some {roots : List Component} {names : List String} {n : String}
    (found : missing? roots names = some n) : LeastMissing roots names n := by
  obtain ⟨named, absent, least⟩ := least_of_find? found
  refine ⟨named, (unchosen_iff named).mp absent, fun m named missing => ?_⟩
  exact least m named ((unchosen_iff named).mpr missing)

theorem missing?_eq_none_iff {roots : List Component} {names : List String} :
    missing? roots names = none ↔ ∀ n ∈ names, Occurs roots n := by
  rw [missing?, List.find?_eq_none]
  constructor
  · intro none n named
    by_contra missing
    exact none n (mem_nameSet.mpr named) ((unchosen_iff named).mpr missing)
  · intro all n member absent
    have named := mem_nameSet.mp member
    exact (unchosen_iff named).mp absent (all n named)

def payments : Project := ⟨1, "Payments", { url := "file:///drops" }⟩

def ProjectStore.ofRoots (roots : List Component) : ProjectStore :=
  (({} : Catalog).addProject payments roots).projectStore

namespace Dependencies

variable {d : Dependencies} {projects : ProjectStore} {project : Project}
  {roots : List Component} {names : List String}

theorem ordering_of_deep (read : projects.roots project.id = .ok roots)
    (deep : defaultMaxDepth < heightOfAll roots) :
    ∃ c, FirstAtDepth (defaultMaxDepth + 1) roots c ∧
      d.ordering projects project names = .error (.treeTooDeep c.name defaultMaxDepth) := by
  obtain ⟨c, first⟩ := exists_firstAtDepth_iff.mpr deep
  refine ⟨c, first, ?_⟩
  rw [ordering, read]
  simp only [within_eq_error_iff.mpr ⟨c, first, rfl⟩, Bind.bind, Except.bind]

theorem ordering_of_missing (read : projects.roots project.id = .ok roots)
    (low : heightOfAll roots ≤ defaultMaxDepth) {n : String}
    (found : missing? roots names = some n) :
    d.ordering projects project names = .error (.componentNotFound n) := by
  rw [missing?, chosen] at found
  rw [ordering, read]
  simp only [within_eq_preOrder low, Bind.bind, Except.bind, found]
  rfl

theorem ordering_of_known (read : projects.roots project.id = .ok roots)
    (low : heightOfAll roots ≤ defaultMaxDepth) (known : ∀ n ∈ names, Occurs roots n) :
    d.ordering projects project names =
      (d.arrange ((chosen roots names).map (·.name))).map fun placed =>
        placed.filterMap fun n => (chosen roots names).find? (·.name == n) := by
  have found := missing?_eq_none_iff.mpr known
  rw [missing?, chosen] at found
  rw [ordering, read]
  simp only [within_eq_preOrder low, Bind.bind, Except.bind, found]
  rw [chosen]
  cases d.arrange (((firstOfEachName (preOrder roots)).filter (names.contains ·.name)).map
    (·.name)) <;> rfl

theorem names_chosen_of_known (known : ∀ n ∈ names, Occurs roots n) (n : String) :
    n ∈ (chosen roots names).map (·.name) ↔ n ∈ names := by
  rw [mem_chosen_names]
  exact ⟨And.left, fun named => ⟨named, known n named⟩⟩

theorem exists_arranged {ordered : List Component}
    (given : d.ordering projects project names = .ok ordered) :
    ∃ roots placed, projects.roots project.id = .ok roots ∧
      (∀ n, n ∈ (chosen roots names).map (·.name) ↔ n ∈ names) ∧
      d.arrange ((chosen roots names).map (·.name)) = .ok placed ∧
      ordered.map (·.name) = placed ∧
      ordered = placed.filterMap fun n => (chosen roots names).find? (·.name == n) := by
  obtain ⟨roots, read, -⟩ := bind_eq_ok_iff.mp given
  have order := ordering_spec given read
  have known : ∀ n ∈ names, Occurs roots n := by
    intro n named
    obtain ⟨c, member, same⟩ := List.mem_map.mp ((order.mem_iff n).mpr named)
    exact ⟨c, order.mem_preOrder member, same⟩
  have low : heightOfAll roots ≤ defaultMaxDepth := by
    by_contra high
    obtain ⟨c, -, failed⟩ := @ordering_of_deep d projects project roots names read
      (Nat.lt_of_not_le high)
    cases given.symm.trans failed
  rw [ordering_of_known read low known] at given
  obtain ⟨placed, arranged, rfl⟩ := map_eq_ok_iff.mp given
  exact ⟨roots, placed, read, names_chosen_of_known known, arranged,
    map_name_filterMap_find? (arrange_spec arranged).1.subset, rfl⟩

theorem ordered_or_onCycle (read : projects.roots project.id = .ok roots)
    (low : heightOfAll roots ≤ defaultMaxDepth) (known : ∀ n ∈ names, Occurs roots n) :
    (∃ ordered, d.ordering projects project names = .ok ordered ∧ ∀ n, ¬ d.OnCycle names n) ∨
    ∃ n, d.ordering projects project names = .error (.invalid (.dependencyCycle n)) ∧
      d.OnCycle names n := by
  have answer := ordering_of_known (d := d) read low known
  cases arranged : d.arrange ((chosen roots names).map (·.name)) with
  | error e =>
    obtain ⟨n, rfl, cycle⟩ := arrange_error arranged
    rw [arranged] at answer
    exact Or.inr ⟨n, answer, (onCycle_congr (names_chosen_of_known known) n).mp cycle⟩
  | ok placed =>
    rw [arranged] at answer
    exact Or.inl ⟨_, answer, (ordering_spec answer read).not_onCycle⟩

/-- An order has the given names, each of them once, as the first component that bears it and behind
all it depends on. -/
theorem ordering_topological (d : Dependencies) (projects : ProjectStore) (project : Project)
    (names : List String) (ordered : List Component)
    (given : d.ordering projects project names = .ok ordered) :
    ∃ roots, projects.roots project.id = .ok roots ∧
      (ordered.map (·.name)).Nodup ∧
      (∀ n, n ∈ ordered.map (·.name) ↔ n ∈ names) ∧
      (∀ c ∈ ordered, ∃ before after, preOrder roots = before ++ c :: after ∧
        ∀ b ∈ before, b.name ≠ c.name) ∧
      ∀ component dependency, (component, dependency) ∈ d.declared → component ∈ names →
        dependency ∈ names →
        (ordered.map (·.name)).idxOf dependency < (ordered.map (·.name)).idxOf component := by
  obtain ⟨roots, read, -⟩ := bind_eq_ok_iff.mp given
  have arranged := ordering_spec given read
  refine ⟨roots, read, arranged.nodup, arranged.mem_iff, ?_, ?_⟩
  · intro c member
    obtain ⟨-, before, after, split, others⟩ :=
      List.find?_eq_some_iff_append.mp (arranged.first c member)
    exact ⟨before, after, split, fun b earlier => by simpa using others b earlier⟩
  · intro component dependency declared component_named dependency_named
    exact arranged.idxOf_lt ⟨declared, component_named, dependency_named⟩

def layers : Dependencies :=
  ⟨[("UI", "API"), ("API", "DB"), ("API", "DB"), ("API", "Queue"), ("Cache", "Cache")]⟩

def layeredStore : ProjectStore :=
  .ofRoots [folder "Web" [leaf "UI" "ui.sh"], leaf "API" "api.sh", leaf "UI" "spare.sh",
    leaf "DB" "db.sh"]

theorem ordering_topological_layers :
    layers.ordering layeredStore payments ["API", "DB", "UI"] =
      .ok [leaf "DB" "db.sh", leaf "API" "api.sh", leaf "UI" "ui.sh"] ∧
    ∀ component dependency, (component, dependency) ∈ layers.declared →
      component ∈ ["API", "DB", "UI"] → dependency ∈ ["API", "DB", "UI"] →
      ["DB", "API", "UI"].idxOf dependency < ["DB", "API", "UI"].idxOf component := by
  have given : layers.ordering layeredStore payments ["API", "DB", "UI"] =
      .ok [leaf "DB" "db.sh", leaf "API" "api.sh", leaf "UI" "ui.sh"] := by cbv
  obtain ⟨_, _, _, _, _, before⟩ := ordering_topological _ _ _ _ _ given
  exact ⟨given, before⟩

open Classical in
/-- The first of three obstacles is the failure; without one there is an order. The visits that look
for it are finite. -/
theorem ordering_outcome (d : Dependencies) (projects : ProjectStore) (project : Project)
    (names : List String) (roots : List Component)
    (read : projects.roots project.id = .ok roots) :
    (∀ selected, VisitsAll d selected [] [] selected (d.arrange selected)) ∧
    if 64 < heightOfAll roots then
      ∃ c, FirstAtDepth 65 roots c ∧
        d.ordering projects project names = .error (.treeTooDeep c.name 64)
    else if ∃ n ∈ names, ¬ Occurs roots n then
      ∃ n, LeastMissing roots names n ∧
        d.ordering projects project names = .error (.componentNotFound n)
    else if ∃ n, d.OnCycle names n then
      ∃ n, d.OnCycle names n ∧
        d.ordering projects project names = .error (.invalid (.dependencyCycle n))
    else ∃ ordered, d.ordering projects project names = .ok ordered := by
  refine ⟨visitsAll_arrange d, ?_⟩
  split
  · rename_i deep
    exact ordering_of_deep read deep
  · rename_i low
    have low := Nat.le_of_not_lt low
    split
    · rename_i absent
      cases found : missing? roots names with
      | none =>
        obtain ⟨n, named, missing⟩ := absent
        exact absurd (missing?_eq_none_iff.mp found n named) missing
      | some n =>
        exact ⟨n, missing?_eq_some found, ordering_of_missing read low found⟩
    · rename_i absent
      have known : ∀ n ∈ names, Occurs roots n := by
        intro n named
        by_contra missing
        exact absent ⟨n, named, missing⟩
      rcases ordered_or_onCycle (d := d) read low known with ⟨ordered, given, acyclic⟩ | ⟨n, given, cycle⟩
      · rw [if_neg fun ⟨n, cycle⟩ => acyclic n cycle]
        exact ⟨ordered, given⟩
      · rw [if_pos ⟨n, cycle⟩]
        exact ⟨n, cycle, given⟩

def ring : Dependencies := ⟨[("A", "B"), ("B", "C"), ("C", "B")]⟩

def ringForest : List Component := [leaf "A" "a.sh", leaf "B" "b.sh", leaf "C" "c.sh"]

theorem ordering_outcome_ring :
    (ProjectStore.ofRoots ringForest).roots payments.id = .ok ringForest ∧
    ∃ n, ring.OnCycle ["A", "B", "C"] n ∧
      ring.ordering (.ofRoots ringForest) payments ["A", "B", "C"] =
        .error (.invalid (.dependencyCycle n)) := by
  have read : (ProjectStore.ofRoots ringForest).roots payments.id = .ok ringForest := rfl
  have known : ¬ ∃ n ∈ ["A", "B", "C"], ¬ Occurs ringForest n := by
    simp [Occurs, ringForest, preOrder_cons, leaf]
  have cycle : ring.OnCycle ["A", "B", "C"] "B" :=
    .tail (.single (by decide : ring.Needs ["A", "B", "C"] "B" "C"))
      (by decide : ring.Needs ["A", "B", "C"] "C" "B")
  obtain ⟨-, outcome⟩ := ordering_outcome ring _ payments ["A", "B", "C"] ringForest read
  rw [if_neg (by decide), if_neg known, if_pos ⟨"B", cycle⟩] at outcome
  exact ⟨read, outcome⟩

end Dependencies

end DeployPlan
