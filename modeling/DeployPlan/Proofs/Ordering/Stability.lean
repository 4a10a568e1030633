import DeployPlan.Proofs.Ordering.Answer

/-!
Stability. A visit moves nothing that is placed, so names that stand behind all they depend on keep
their places. Ordering the roots of a forest only rearranges them, and leaves them as declared when
no root depends on a later one.
-/

namespace DeployPlan

open Component

namespace Dependencies

variable {d : Dependencies} {selected : List String}

theorem foldlM_of_settled {visit : List String → String → Except Failure (List String)}
    {names placed : List String} (settled : ∀ n ∈ names, visit placed n = .ok placed) :
    names.foldlM visit placed = .ok placed := by
  induction names with
  | nil => rfl
  | cons name names ih =>
    obtain ⟨first, rest⟩ := List.forall_mem_cons.mp settled
    rw [List.foldlM_cons, first]
    exact ih rest

theorem visit_of_mem {fuel : Nat} {path placed : List String} {name : String}
    (present : name ∈ placed) : d.visit selected (fuel + 1) path placed name = .ok placed := by
  rw [visit_succ, if_pos present]

theorem visit_of_ready {fuel : Nat} {path placed : List String} {name : String}
    (fresh : name ∉ placed) (offPath : name ∉ path)
    (ready : ∀ n ∈ d.of name, n ∈ selected → n ∈ placed) :
    d.visit selected (fuel + 2) path placed name = .ok (placed ++ [name]) := by
  have settled : ∀ n ∈ (d.of name).filter (· ∈ selected),
      d.visit selected (fuel + 1) (name :: path) placed n = .ok placed := by
    intro n member
    obtain ⟨declared, wanted⟩ := List.mem_filter.mp member
    exact visit_of_mem (ready n declared (of_decide_eq_true wanted))
  rw [visit_succ, if_neg fresh, if_neg offPath, foldlM_of_settled settled]
  rfl

theorem Arranged.visit_next (arranged : Arranged d selected selected) {before after : List String}
    {name : String} (split : selected = before ++ name :: after) :
    d.visit selected (selected.length + 1) [] before name = .ok (before ++ [name]) := by
  have fresh : name ∉ before := by
    have nodup := arranged.nodup
    rw [split] at nodup
    intro again
    exact (List.nodup_append.mp nodup).2.2 name again name List.mem_cons_self rfl
  have room : selected.length = before.length + after.length + 1 := by
    rw [split, List.length_append, List.length_cons]
    omega
  rw [room]
  exact visit_of_ready fresh List.not_mem_nil (arranged.behind before name after split)

theorem arranged_of_declared (nodup : selected.Nodup)
    (behind : ∀ component dependency, d.Needs selected component dependency →
      selected.idxOf dependency < selected.idxOf component) :
    Arranged d selected selected where
  nodup := nodup
  subset _ member := member
  behind := by
    intro before n after split dependency declared wanted
    have earlier := behind n dependency ⟨mem_of_iff.mp declared, split ▸ by simp, wanted⟩
    by_contra later
    rw [split, idxOf_append_lt_iff] at earlier
    split at earlier
    · exact later (mem_of_idxOf_lt earlier)
    · rcases earlier with earlier | earlier
      · exact later earlier
      · rw [List.idxOf_cons_self] at earlier
        exact Nat.not_lt_zero _ earlier

theorem Arranged.arrange_eq (arranged : Arranged d selected selected) :
    d.arrange selected = .ok selected := by
  -- what is placed so far is the part of the selection before the names still to be visited
  have rest : ∀ after before, selected = before ++ after →
      after.foldlM (fun placed name => d.visit selected (selected.length + 1) [] placed name)
        before = .ok selected := by
    intro after
    induction after with
    | nil =>
      intro before split
      rw [split, List.append_nil]
      rfl
    | cons name after ih =>
      intro before split
      rw [List.foldlM_cons, arranged.visit_next split]
      exact ih (before ++ [name]) (by rw [List.append_assoc]; exact split)
  exact rest selected [] rfl

end Dependencies

theorem firstOfEachName_of_nodup {cs : List Component} (distinct : (cs.map (·.name)).Nodup) :
    firstOfEachName cs = cs := by
  induction cs with
  | nil => rfl
  | cons c cs ih =>
    obtain ⟨fresh, rest⟩ := List.nodup_cons.mp distinct
    rw [firstOfEachName, ih rest, List.filter_eq_self.mpr]
    intro b member
    rw [bne_iff_ne]
    intro same
    exact fresh (List.mem_map.mpr ⟨b, member, same⟩)

theorem filterMap_find?_names {cs : List Component} (distinct : (cs.map (·.name)).Nodup) :
    (cs.map (·.name)).filterMap (fun n => cs.find? (·.name == n)) = cs := by
  have found : ∀ c ∈ cs, cs.find? (·.name == c.name) = some c := by
    intro c member
    rw [← firstOfEachName_of_nodup distinct] at member
    exact mem_firstOfEachName.mp member
  rw [List.filterMap_map]
  exact (List.filterMap_congr found).trans List.filterMap_some

theorem roots_sublist_preOrder (roots : List Component) : roots.Sublist (preOrder roots) := by
  induction roots with
  | nil => exact List.nil_sublist _
  | cons c cs ih =>
    rw [preOrder_cons, List.cons_append]
    exact (ih.trans (List.sublist_append_right _ _)).cons_cons c

theorem chosen_roots {roots : List Component} {names : List String} (distinct : DistinctNames roots)
    (top : ∀ n, n ∈ names ↔ n ∈ roots.map (·.name)) : chosen roots names = roots := by
  rw [chosen, firstOfEachName_of_nodup distinct]
  have named : ∀ c ∈ roots, names.contains c.name = true := by
    intro c member
    exact List.contains_iff_mem.mpr ((top c.name).mpr (List.mem_map_of_mem member))
  have inside := (roots_sublist_preOrder roots).filter (names.contains ·.name)
  rw [List.filter_eq_self.mpr named] at inside
  have nodup : (preOrder roots).Nodup := distinct.of_map _
  have known : (preOrder roots).filter (names.contains ·.name) ⊆ roots := by
    intro c member
    obtain ⟨present, named⟩ := List.mem_filter.mp member
    obtain ⟨b, root, same⟩ := List.mem_map.mp ((top c.name).mp (List.contains_iff_mem.mp named))
    cases distinct.eq_of_name (mem_preOrder_of_mem root) present same
    exact root
  exact (inside.eq_of_length_le (List.subperm_of_subset (nodup.filter _) known).length_le).symm

namespace Dependencies

variable {d : Dependencies} {projects : ProjectStore} {project : Project}
  {roots ordered : List Component} {names : List String}

/-- No component depends on a later one. -/
def Settled (d : Dependencies) (cs : List Component) : Prop :=
  cs.Pairwise fun a b => (a.name, b.name) ∉ d.declared

instance (cs : List Component) : Decidable (d.Settled cs) :=
  inferInstanceAs (Decidable (cs.Pairwise _))

theorem Ordered.perm_roots (arranged : d.Ordered roots names ordered)
    (distinct : DistinctNames roots) (top : ∀ n, n ∈ names ↔ n ∈ roots.map (·.name)) :
    ordered.Perm roots := by
  have nodup : (preOrder roots).Nodup := distinct.of_map _
  rw [List.perm_ext_iff_of_nodup (arranged.nodup.of_map _)
    (nodup.sublist (roots_sublist_preOrder roots))]
  intro c
  constructor
  · exact arranged.mem_roots distinct fun n => (top n).mp
  · intro root
    have named := (arranged.mem_iff c.name).mpr ((top c.name).mpr (List.mem_map_of_mem root))
    obtain ⟨b, member, same⟩ := List.mem_map.mp named
    cases distinct.eq_of_name (arranged.mem_preOrder member) (mem_preOrder_of_mem root) same
    exact member

theorem Ordered.not_self (arranged : d.Ordered roots names ordered) {n : String} (named : n ∈ names) :
    (n, n) ∉ d.declared := by
  intro declared
  exact Nat.lt_irrefl _ (arranged.idxOf_lt ⟨declared, named, named⟩)

theorem Settled.arranged {cs : List Component} (settled : d.Settled cs)
    (distinct : (cs.map (·.name)).Nodup) (proper : ∀ n ∈ cs.map (·.name), (n, n) ∉ d.declared) :
    Arranged d (cs.map (·.name)) (cs.map (·.name)) := by
  refine arranged_of_declared distinct fun component dependency needs => ?_
  obtain ⟨declared, bound, wanted⟩ := needs
  rw [Settled, ← List.pairwise_map (R := fun a b => (a, b) ∉ d.declared),
    List.pairwise_iff_getElem] at settled
  rcases Nat.lt_trichotomy ((cs.map (·.name)).idxOf dependency)
    ((cs.map (·.name)).idxOf component) with earlier | same | later
  · exact earlier
  · cases (List.idxOf_inj wanted).mp same
    exact absurd declared (proper _ bound)
  · have undeclared := settled _ _ (List.idxOf_lt_length_of_mem bound)
      (List.idxOf_lt_length_of_mem wanted) later
    rw [List.getElem_idxOf, List.getElem_idxOf] at undeclared
    exact absurd declared undeclared

theorem ordering_roots (given : d.ordering projects project names = .ok ordered)
    (read : projects.roots project.id = .ok roots) (distinct : DistinctNames roots)
    (top : ∀ n, n ∈ names ↔ n ∈ roots.map (·.name)) (settled : d.Settled roots) :
    ordered = roots := by
  have order := ordering_spec given read
  have rootNames : (roots.map (·.name)).Nodup :=
    distinct.sublist ((roots_sublist_preOrder roots).map _)
  have arranged := settled.arranged rootNames fun n named => order.not_self ((top n).mpr named)
  obtain ⟨roots', placed, read', -, placedNames, -, looked⟩ := exists_arranged given
  cases read.symm.trans read'
  rw [chosen_roots distinct top] at placedNames looked
  rw [arranged.arrange_eq] at placedNames
  rw [looked, ← Except.ok.inj placedNames]
  exact filterMap_find?_names rootNames

end Dependencies

end DeployPlan
