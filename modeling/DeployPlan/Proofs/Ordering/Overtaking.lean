import DeployPlan.Proofs.Ordering.Stability

/-!
Overtaking. The visit of a name places nothing but what dependencies lead to from it. So a component
comes ahead of one that is declared before it only if that one, or one declared still earlier, leads
to it; and where no component is declared before what it depends on, the declared order stays.
-/

namespace DeployPlan

open Component

theorem names_firstOfEachName (cs : List Component) :
    (firstOfEachName cs).map (·.name) = (cs.map (·.name)).eraseDups := by
  induction cs with
  | nil => rfl
  | cons c cs ih =>
    have others : ((firstOfEachName cs).filter (·.name != c.name)).map (·.name) =
        ((firstOfEachName cs).map (·.name)).filter (· != c.name) := by
      rw [List.filter_map]
      rfl
    rw [firstOfEachName, List.map_cons, List.map_cons, List.eraseDups_cons, others, ih,
      eraseDups_filter]
    rfl

theorem names_chosen (roots : List Component) (names : List String) :
    (chosen roots names).map (·.name) =
      ((preOrder roots).map (·.name)).eraseDups.filter names.contains := by
  rw [← names_firstOfEachName, List.filter_map, chosen]
  rfl

theorem idxOf_chosen_lt_iff {roots : List Component} {names : List String} {a b : String}
    (ha : a ∈ names) (hb : b ∈ names) :
    ((chosen roots names).map (·.name)).idxOf a < ((chosen roots names).map (·.name)).idxOf b ↔
      ((preOrder roots).map (·.name)).idxOf a < ((preOrder roots).map (·.name)).idxOf b := by
  rw [names_chosen, idxOf_filter_lt_iff names.contains (List.contains_iff_mem.mpr ha)
    (List.contains_iff_mem.mpr hb), idxOf_eraseDups_lt_iff]

namespace Dependencies

variable {d : Dependencies} {selected : List String}

theorem exists_placing_step {visit : List String → String → Except Failure (List String)}
    {names placed result : List String} (done : names.foldlM visit placed = .ok result) {n : String}
    (fresh : n ∉ placed) (member : n ∈ result) :
    ∃ before name after mid next, names = before ++ name :: after ∧
      before.foldlM visit placed = .ok mid ∧ visit mid name = .ok next ∧
      after.foldlM visit next = .ok result ∧ n ∉ mid ∧ n ∈ next := by
  induction names generalizing placed with
  | nil =>
    cases done
    exact absurd member fresh
  | cons name names ih =>
    rw [List.foldlM_cons, bind_eq_ok_iff] at done
    obtain ⟨next, first, rest⟩ := done
    by_cases here : n ∈ next
    · exact ⟨[], name, names, placed, next, rfl, rfl, first, rest, fresh, here⟩
    · obtain ⟨before, step, after, mid, stepped, rfl, run, visited, rest, absent, present⟩ :=
        ih rest here
      refine ⟨name :: before, step, after, mid, stepped, rfl, ?_, visited, rest, absent, present⟩
      rw [List.foldlM_cons, first]
      exact run

theorem visit_reaches {fuel : Nat} {path placed result : List String} {name n : String}
    (chosen : name ∈ selected) (visited : d.visit selected fuel path placed name = .ok result)
    (fresh : n ∉ placed) (member : n ∈ result) :
    Relation.ReflTransGen (d.Needs selected) name n := by
  induction fuel generalizing path placed result name with
  | zero => cases visited
  | succ fuel ih =>
    rw [visit_succ] at visited
    split at visited
    · cases visited
      exact absurd member fresh
    · split at visited
      · cases visited
      · obtain ⟨before, dependencies, rfl⟩ := map_eq_ok_iff.mp visited
        rcases List.mem_append.mp member with member | member
        · -- `n` was placed while one dependency was visited, which is one step away.
          obtain ⟨_, dependency, _, mid, next, split, -, visited, -, absent, present⟩ :=
            exists_placing_step dependencies fresh member
          have needed : dependency ∈ (d.of name).filter (· ∈ selected) := by
            rw [split]
            simp
          obtain ⟨declared, wanted⟩ := List.mem_filter.mp needed
          have edge : d.Needs selected name dependency :=
            ⟨mem_of_iff.mp declared, chosen, of_decide_eq_true wanted⟩
          exact .head edge (ih edge.2.2 visited absent present)
        · rw [List.mem_singleton.mp member]

theorem arrange_overtaken {placed : List String} (arranged : d.arrange selected = .ok placed)
    {a b : String} (ha : a ∈ selected) (hb : b ∈ selected)
    (declared : selected.idxOf a < selected.idxOf b) (overtaken : placed.idxOf b < placed.idxOf a) :
    ∃ x ∈ selected, (x = a ∨ selected.idxOf x < selected.idxOf a) ∧
      Relation.TransGen (d.Needs selected) x b := by
  have placing : ∀ n ∈ selected, ∀ p q,
      d.visit selected (selected.length + 1) [] p n = .ok q → Placing d selected [] [n] p q :=
    fun n chosen p q visited => visit_placing chosen visited
  obtain ⟨before, x, after, mid, next, split, run, visited, rest, absent, present⟩ :=
    exists_placing_step arranged List.not_mem_nil ((arrange_spec arranged).2 b hb)
  have inside : ∀ n ∈ before ++ x :: after, n ∈ selected := fun n member => split ▸ member
  have chosen : x ∈ selected := inside x (by simp)
  -- what is visited before `x` stands in front of all that its visit places
  have visitedLater : a ∉ before := by
    intro earlier
    have first : Placing d selected [] before [] mid :=
      placing_foldlM (fun n member => placing n (inside n (List.mem_append_left _ member))) run
    have second : Placing d selected [] after next placed :=
      placing_foldlM (fun n member => placing n (inside n (by simp [member]))) rest
    obtain ⟨behind, rfl⟩ := ((placing x chosen mid next visited).grows.trans second.grows)
    rw [idxOf_append_lt_iff, if_pos (first.covers a earlier)] at overtaken
    exact absent (mem_of_idxOf_lt overtaken)
  have order : x = a ∨ selected.idxOf x < selected.idxOf a := by
    by_cases same : x = a
    · exact .inl same
    · refine .inr ?_
      rw [split, idxOf_append_lt_iff, if_neg visitedLater, List.idxOf_cons_self,
        List.idxOf_cons_ne _ same]
      exact .inr (Nat.succ_pos _)
  refine ⟨x, chosen, order, ?_⟩
  rcases Relation.reflTransGen_iff_eq_or_transGen.mp
    (visit_reaches chosen visited absent present) with same | leads
  · subst same
    rcases order with rfl | earlier
    · exact absurd declared (Nat.lt_irrefl _)
    · exact absurd (Nat.lt_trans declared earlier) (Nat.lt_irrefl _)
  · exact leads

/-- Where a component comes ahead of one that is declared before it, that one or one declared still
earlier depends on it, if only through others. Components that are declared behind all they depend on
keep their order. -/
theorem ordering_stable (d : Dependencies) (projects : ProjectStore) (project : Project)
    (names : List String) (ordered : List Component)
    (given : d.ordering projects project names = .ok ordered) :
    ∃ roots, projects.roots project.id = .ok roots ∧
      let declaredAt := fun n => ((preOrder roots).map (·.name)).idxOf n
      let placedAt := fun n => (ordered.map (·.name)).idxOf n
      (∀ a ∈ names, ∀ b ∈ names, declaredAt a < declaredAt b → placedAt b < placedAt a →
        ∃ x ∈ names, (x = a ∨ declaredAt x < declaredAt a) ∧
          Relation.TransGen (d.Needs names) x b) ∧
      ((∀ component dependency, d.Needs names component dependency →
        declaredAt dependency < declaredAt component) → ordered = chosen roots names) := by
  obtain ⟨roots, placed, read, same, arranged, placedNames, looked⟩ := exists_arranged given
  refine ⟨roots, read, ?_, ?_⟩
  · intro a ha b hb declared overtaken
    rw [placedNames] at overtaken
    -- Selecting keeps the order of declaration.
    rw [← idxOf_chosen_lt_iff ha hb] at declared
    obtain ⟨x, member, order, leads⟩ :=
      arrange_overtaken arranged ((same a).mpr ha) ((same b).mpr hb) declared overtaken
    have hx := (same x).mp member
    rw [needs_congr same] at leads
    rw [idxOf_chosen_lt_iff hx ha] at order
    exact ⟨x, hx, order, leads⟩
  · intro behind
    have nodup : ((chosen roots names).map (·.name)).Nodup := by
      rw [names_chosen]
      exact (nodup_eraseDups _).filter _
    have settled := arranged_of_declared (d := d) nodup fun component dependency needs => by
      rw [needs_congr same] at needs
      exact (idxOf_chosen_lt_iff needs.2.2 needs.2.1).mpr (behind component dependency needs)
    rw [settled.arrange_eq] at arranged
    rw [looked, ← Except.ok.inj arranged]
    exact filterMap_find?_names nodup

def detour : Dependencies := ⟨[("Cache", "DB"), ("DB", "Queue"), ("API", "Log")]⟩

def detourStore : ProjectStore :=
  .ofRoots [folder "Data" [leaf "Cache" "cache.sh"], leaf "API" "api.sh", leaf "DB" "db.sh",
    leaf "Queue" "queue.sh"]

theorem ordering_stable_detour :
    detour.ordering detourStore payments ["API", "Cache", "DB", "Queue"] =
      .ok [leaf "Queue" "queue.sh", leaf "DB" "db.sh", leaf "Cache" "cache.sh",
        leaf "API" "api.sh"] ∧
    ∃ x ∈ ["API", "Cache", "DB", "Queue"],
      Relation.TransGen (detour.Needs ["API", "Cache", "DB", "Queue"]) x "Queue" := by
  have given : detour.ordering detourStore payments ["API", "Cache", "DB", "Queue"] =
      .ok [leaf "Queue" "queue.sh", leaf "DB" "db.sh", leaf "Cache" "cache.sh",
        leaf "API" "api.sh"] := by cbv
  obtain ⟨roots, read, overtaking, -⟩ := ordering_stable _ _ _ _ _ given
  cases read
  obtain ⟨x, member, -, leads⟩ :=
    overtaking "API" (by decide) "Queue" (by decide) (by decide) (by decide)
  exact ⟨given, x, member, leads⟩

end Dependencies

end DeployPlan
