import Mathlib.Data.List.Basic
import DeployPlan.Ordering
import DeployPlan.Proofs.Component.Forest
import DeployPlan.Proofs.Steps

/-!
The order of deployment. A visit only adds to the names placed so far, places what it is asked to
place, and never places a name that it is on the way to; so every name stands behind all it depends
on. This carries over from names to the components that are put in order.
-/

namespace DeployPlan

namespace Dependencies

variable {d : Dependencies} {selected : List String}

theorem mem_of_iff {component dependency : String} :
    dependency ∈ d.of component ↔ (component, dependency) ∈ d.declared := by
  simp [Dependencies.of]

/-- Names without repetition, each of them behind its selected dependencies. -/
structure Arranged (d : Dependencies) (selected placed : List String) : Prop where
  nodup : placed.Nodup
  subset : ∀ n ∈ placed, n ∈ selected
  behind : ∀ before n after, placed = before ++ n :: after →
    ∀ dependency ∈ d.of n, dependency ∈ selected → dependency ∈ before

theorem arranged_nil : Arranged d selected [] where
  nodup := List.nodup_nil
  subset := by simp
  behind := by
    intro before n after split
    simp at split

theorem Arranged.append_singleton {placed : List String} (arranged : Arranged d selected placed)
    {name : String} (fresh : name ∉ placed) (chosen : name ∈ selected)
    (dependencies : ∀ n ∈ d.of name, n ∈ selected → n ∈ placed) :
    Arranged d selected (placed ++ [name]) where
  nodup := by
    rw [List.nodup_append]
    refine ⟨arranged.nodup, List.nodup_singleton name, ?_⟩
    rintro a ha b hb rfl
    exact fresh (List.mem_singleton.mp hb ▸ ha)
  subset := by
    intro n hn
    rcases List.mem_append.mp hn with hn | hn
    · exact arranged.subset n hn
    · exact List.mem_singleton.mp hn ▸ chosen
  behind := by
    intro before n after split dependency declared chosen
    -- The name in question is the new one, or the new one ends what follows it.
    rcases List.eq_nil_or_concat after with rfl | ⟨rest, last, rfl⟩
    · obtain ⟨rfl, same⟩ := List.append_inj' split rfl
      cases List.singleton_inj.mp same
      exact dependencies dependency declared chosen
    · rw [List.concat_eq_append, ← List.cons_append, ← List.append_assoc] at split
      obtain ⟨same, -⟩ := List.append_inj' split rfl
      exact arranged.behind before n rest same dependency declared chosen

/-- What placing `names` does to the names placed so far, on a way that leads through `path`. -/
structure Placing (d : Dependencies) (selected path names before after : List String) : Prop where
  grows : before <+: after
  covers : ∀ n ∈ names, n ∈ after
  spares : ∀ n ∈ path, n ∉ before → n ∉ after
  arranged : Arranged d selected before → Arranged d selected after

theorem Placing.refl {path placed names : List String} (covered : ∀ n ∈ names, n ∈ placed) :
    Placing d selected path names placed placed :=
  ⟨List.prefix_rfl, covered, fun _ _ fresh => fresh, fun arranged => arranged⟩

theorem Placing.cons {path names a b c : List String} {name : String}
    (first : Placing d selected path [name] a b) (rest : Placing d selected path names b c) :
    Placing d selected path (name :: names) a c where
  grows := first.grows.trans rest.grows
  covers := List.forall_mem_cons.mpr
    ⟨rest.grows.subset (first.covers name (List.mem_singleton_self name)), rest.covers⟩
  spares := fun n on fresh => rest.spares n on (first.spares n on fresh)
  arranged := fun arranged => rest.arranged (first.arranged arranged)

theorem placing_foldlM {path names placed result : List String}
    {visit : List String → String → Except Failure (List String)}
    (each : ∀ n ∈ names, ∀ a b, visit a n = .ok b → Placing d selected path [n] a b)
    (done : names.foldlM visit placed = .ok result) :
    Placing d selected path names placed result := by
  induction names generalizing placed with
  | nil =>
    cases done
    exact .refl (by simp)
  | cons name names ih =>
    rw [List.foldlM_cons, bind_eq_ok_iff] at done
    obtain ⟨next, first, rest⟩ := done
    obtain ⟨head, tail⟩ := List.forall_mem_cons.mp each
    exact (head placed next first).cons (ih tail rest)

theorem Placing.place {path placed before : List String} {name : String}
    (fresh : name ∉ placed) (offPath : name ∉ path) (chosen : name ∈ selected)
    (dependencies : Placing d selected (name :: path) ((d.of name).filter selected.contains)
      placed before) : Placing d selected path [name] placed (before ++ [name]) where
  grows := dependencies.grows.trans (List.prefix_append before [name])
  covers := by simp
  spares := by
    intro n on absent member
    rcases List.mem_append.mp member with member | member
    · exact dependencies.spares n (List.mem_cons_of_mem name on) absent member
    · exact offPath (List.mem_singleton.mp member ▸ on)
  arranged := by
    intro arranged
    refine (dependencies.arranged arranged).append_singleton
      (dependencies.spares name List.mem_cons_self fresh) chosen ?_
    intro n declared chosen
    exact dependencies.covers n (List.mem_filter.mpr ⟨declared, List.contains_iff_mem.mpr chosen⟩)

theorem visit_placing {fuel : Nat} {path placed result : List String} {name : String}
    (chosen : name ∈ selected) (visited : d.visit selected fuel path placed name = .ok result) :
    Placing d selected path [name] placed result := by
  -- A visit that ran out of fuel has failed.
  induction fuel generalizing path placed result name with
  | zero => cases visited
  | succ fuel ih =>
    rw [visit] at visited
    split at visited
    · rename_i present
      cases visited
      exact .refl (by simpa using present)
    · rename_i absent
      split at visited
      · cases visited
      · rename_i offPath
        obtain ⟨before, dependencies, done⟩ := bind_eq_ok_iff.mp visited
        cases done
        refine .place (by simpa using absent) (by simpa using offPath) chosen ?_
        refine placing_foldlM ?_ dependencies
        intro n member a b visited
        exact ih (List.contains_iff_mem.mp (List.mem_filter.mp member).2) visited

theorem arrange_spec {placed : List String} (arranged : d.arrange selected = .ok placed) :
    Arranged d selected placed ∧ ∀ n ∈ selected, n ∈ placed := by
  have placing : Placing d selected [] selected [] placed :=
    placing_foldlM (fun n chosen a b visited => visit_placing chosen visited) arranged
  exact ⟨placing.arranged arranged_nil, placing.covers⟩

end Dependencies

theorem mem_nameSet {n : String} {names : List String} : n ∈ nameSet names ↔ n ∈ names := by
  rw [nameSet, List.mem_mergeSort, List.mem_eraseDups]

theorem mem_firstOfEachName {c : Component} {cs : List Component} :
    c ∈ firstOfEachName cs ↔ cs.find? (·.name == c.name) = some c := by
  induction cs with
  | nil => simp [firstOfEachName]
  | cons first cs ih =>
    rw [firstOfEachName, List.mem_cons, List.mem_filter, ih]
    by_cases same : first.name = c.name
    · rw [List.find?_cons_of_pos (by simpa using same)]
      simp [same, eq_comm]
    · have other : c ≠ first := fun e => same (e ▸ rfl)
      rw [List.find?_cons_of_neg (by simpa using same)]
      simp [other, Ne.symm same]

theorem mem_names_iff_of_known {names : List String} {cs : List Component}
    (known : (nameSet names).find? (fun n =>
      !(cs.filter (names.contains ·.name)).any (·.name == n)) = none) (n : String) :
    n ∈ (cs.filter (names.contains ·.name)).map (·.name) ↔ n ∈ names := by
  constructor
  · intro member
    obtain ⟨c, picked, rfl⟩ := List.mem_map.mp member
    exact List.contains_iff_mem.mp (List.mem_filter.mp picked).2
  · intro named
    have found := List.find?_eq_none.mp known n (mem_nameSet.mpr named)
    rw [Bool.not_eq_true, Bool.not_eq_false', List.any_eq_true] at found
    obtain ⟨c, picked, same⟩ := found
    exact List.mem_map.mpr ⟨c, picked, beq_iff_eq.mp same⟩

theorem map_name_filterMap_find? {placed : List String} {cs : List Component}
    (known : ∀ n ∈ placed, n ∈ cs.map (·.name)) :
    (placed.filterMap fun n => cs.find? (·.name == n)).map (·.name) = placed := by
  induction placed with
  | nil => rfl
  | cons n placed ih =>
    obtain ⟨head, tail⟩ := List.forall_mem_cons.mp known
    obtain ⟨c, member, name⟩ := List.mem_map.mp head
    cases found : cs.find? (·.name == n) with
    | none => exact absurd name (by simpa using List.find?_eq_none.mp found c member)
    | some b =>
      have named : b.name = n := by simpa using List.find?_some found
      rw [List.filterMap_cons, found, List.map_cons, named, ih tail]

/-- The named components of a forest, each behind the named components it depends on. A name stands
for the first component that bears it. -/
structure Dependencies.Ordered (d : Dependencies) (roots : List Component) (names : List String)
    (ordered : List Component) : Prop where
  nodup : (ordered.map (·.name)).Nodup
  mem_iff : ∀ n, n ∈ ordered.map (·.name) ↔ n ∈ names
  first : ∀ c ∈ ordered, (Component.preOrder roots).find? (·.name == c.name) = some c
  behind : ∀ before c after, ordered = before ++ c :: after → ∀ dependency ∈ d.of c.name,
    dependency ∈ names → dependency ∈ before.map (·.name)

theorem Dependencies.ordering_spec {d : Dependencies} {projects : ProjectStore} {project : Project}
    {names : List String} {ordered roots : List Component}
    (given : d.ordering projects project names = .ok ordered)
    (read : projects.roots project.id = .ok roots) : d.Ordered roots names ordered := by
  rw [ordering] at given
  obtain ⟨_, again, given⟩ := bind_eq_ok_iff.mp given
  cases read.symm.trans again
  obtain ⟨declared, walk, given⟩ := bind_eq_ok_iff.mp given
  obtain ⟨-, rfl⟩ := Component.within_eq_ok_iff.mp walk
  dsimp only at given
  set chosen := (firstOfEachName (Component.preOrder roots)).filter (names.contains ·.name)
  split at given
  · cases given
  · rename_i nothingMissing
    obtain ⟨placed, arranged, given⟩ := bind_eq_ok_iff.mp given
    cases given
    obtain ⟨arranged, complete⟩ := arrange_spec arranged
    have same := map_name_filterMap_find? arranged.subset
    have chosen_iff : ∀ n, n ∈ chosen.map (·.name) ↔ n ∈ names :=
      fun n => mem_names_iff_of_known nothingMissing n
    refine ⟨?_, ?_, ?_, ?_⟩
    · rw [same]
      exact arranged.nodup
    · intro n
      rw [same, ← chosen_iff]
      exact ⟨arranged.subset n, complete n⟩
    · intro c hc
      obtain ⟨n, -, found⟩ := List.mem_filterMap.mp hc
      exact mem_firstOfEachName.mp (List.mem_filter.mp (List.mem_of_find?_eq_some found)).1
    · intro before c after split dependency declared chosen_
      refine arranged.behind _ c.name (after.map (·.name)) ?_ dependency declared
        ((chosen_iff dependency).mpr chosen_)
      rw [← same, split, List.map_append, List.map_cons]

namespace Dependencies.Ordered

variable {d : Dependencies} {roots ordered : List Component} {names : List String}

theorem mem_preOrder (arranged : d.Ordered roots names ordered) {c : Component} (member : c ∈ ordered) :
    c ∈ Component.preOrder roots :=
  List.mem_of_find?_eq_some (arranged.first c member)

theorem mem_roots (arranged : d.Ordered roots names ordered)
    (distinct : Component.DistinctNames roots) (top : ∀ n ∈ names, n ∈ roots.map (·.name))
    {c : Component} (member : c ∈ ordered) : c ∈ roots := by
  have named := (arranged.mem_iff c.name).mp (List.mem_map_of_mem member)
  obtain ⟨b, root, same⟩ := List.mem_map.mp (top c.name named)
  cases distinct.eq_of_name (Component.mem_preOrder_of_mem root) (arranged.mem_preOrder member) same
  exact root

theorem filter (arranged : d.Ordered roots names ordered) (keep : Component → Bool) :
    d.Ordered roots ((ordered.filter keep).map (·.name)) (ordered.filter keep) where
  nodup := arranged.nodup.sublist (List.filter_sublist.map _)
  mem_iff _ := Iff.rfl
  first c member := arranged.first c (List.mem_filter.mp member).1
  behind := by
    intro before c after split dependency declared kept
    obtain ⟨e, member, rfl⟩ := List.mem_map.mp kept
    obtain ⟨present, keeps⟩ := List.mem_filter.mp member
    obtain ⟨front, back, rfl, rfl, cut⟩ := List.filter_eq_append_iff.mp split
    obtain ⟨dropped, rest, rfl, drops, -, -⟩ := List.filter_eq_cons_iff.mp cut
    have earlier : e.name ∈ (front ++ dropped).map (·.name) := by
      refine arranged.behind _ c rest (List.append_assoc ..).symm e.name declared ?_
      exact (arranged.mem_iff _).mp (List.mem_map_of_mem present)
    obtain ⟨b, standing, same⟩ := List.mem_map.mp earlier
    have whole : b ∈ front ++ (dropped ++ c :: rest) := by
      rw [← List.append_assoc]
      exact List.mem_append_left _ standing
    -- A name has one component, so the one that stands earlier is the one that was kept.
    cases List.inj_on_of_nodup_map arranged.nodup whole present same
    rcases List.mem_append.mp standing with standing | standing
    · exact List.mem_map_of_mem (List.mem_filter.mpr ⟨standing, keeps⟩)
    · exact absurd keeps (drops _ standing)

end Dependencies.Ordered

end DeployPlan
