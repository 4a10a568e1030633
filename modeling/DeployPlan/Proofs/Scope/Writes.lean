import DeployPlan.Scope.Resolution

/-!
Writing variables. Setting variables of different names gives each of them its value, leaves all others
alone, and changes nothing when it is done again.
-/

namespace DeployPlan.Scope

variable {s : Scope} {vs : List (String × Variable)}

theorem lookup_filter_ne {name other : String} (entries : List (String × Variable)) :
    (entries.filter (·.1 != name)).lookup other =
      if other = name then none else entries.lookup other := by
  induction entries with
  | nil => simp
  | cons entry entries ih =>
    obtain ⟨n, v⟩ := entry
    by_cases dropped : n = name
    · subst dropped
      rw [List.filter_cons_of_neg (by simp), ih, List.lookup_cons]
      by_cases same : other = n
      · simp [same]
      · simp [beq_false_of_ne same]
    · rw [List.filter_cons_of_pos (by simpa using dropped), List.lookup_cons, List.lookup_cons, ih]
      by_cases same : other = n
      · subst same
        simp [dropped]
      · simp [beq_false_of_ne same]

theorem get?_set (name other : String) (v : Variable) :
    (s.set name v).get? other = if other = name then some v else s.get? other := by
  rw [get?, set, List.lookup_append, lookup_filter_ne, List.lookup_cons, List.lookup_nil]
  by_cases same : other = name
  · simp [same]
  · simp [same, beq_false_of_ne same, get?]

theorem setAll_cons (name : String) (v : Variable) :
    s.setAll ((name, v) :: vs) = (s.set name v).setAll vs := rfl

theorem setAll_append (ws : List (String × Variable)) :
    s.setAll (vs ++ ws) = (s.setAll vs).setAll ws :=
  List.foldl_append

theorem get?_setAll_of_not_mem {name : String} (untouched : name ∉ vs.map (·.1)) :
    (s.setAll vs).get? name = s.get? name := by
  induction vs generalizing s with
  | nil => rfl
  | cons entry vs ih =>
    obtain ⟨n, v⟩ := entry
    obtain ⟨other, rest⟩ := List.ne_and_not_mem_of_not_mem_cons untouched
    rw [setAll_cons, ih rest, get?_set, if_neg other]

theorem get?_setAll_of_mem (distinct : (vs.map (·.1)).Nodup) {name : String} {v : Variable}
    (member : (name, v) ∈ vs) : (s.setAll vs).get? name = some v := by
  induction vs generalizing s with
  | nil => cases member
  | cons entry vs ih =>
    obtain ⟨fresh, rest⟩ := List.nodup_cons.mp distinct
    rw [setAll_cons]
    rcases List.mem_cons.mp member with rfl | later
    · rw [get?_setAll_of_not_mem fresh, get?_set, if_pos rfl]
    · exact ih rest later

theorem entries_setAll (distinct : (vs.map (·.1)).Nodup) :
    (s.setAll vs).entries = s.entries.filter (·.1 ∉ vs.map (·.1)) ++ vs := by
  induction vs generalizing s with
  | nil => simp [setAll, List.filter_eq_self.mpr]
  | cons entry vs ih =>
    obtain ⟨n, v⟩ := entry
    obtain ⟨fresh, rest⟩ := List.nodup_cons.mp distinct
    have kept : [(n, v)].filter (·.1 ∉ vs.map (·.1)) = [(n, v)] := by simpa using fresh
    rw [setAll_cons, ih rest, set, List.filter_append, List.filter_filter, kept, List.append_assoc]
    refine congrArg (· ++ (n, v) :: vs) (List.filter_congr fun e _ => ?_)
    rw [Bool.eq_iff_iff]
    simp [List.map_cons, and_comm]

theorem setAll_setAll (distinct : (vs.map (·.1)).Nodup) : (s.setAll vs).setAll vs = s.setAll vs := by
  have replaced : vs.filter (·.1 ∉ vs.map (·.1)) = [] := by
    rw [List.filter_eq_nil_iff]
    intro e member
    simpa using ⟨e.2, member⟩
  have same : ((s.setAll vs).setAll vs).entries = (s.setAll vs).entries := by
    rw [entries_setAll distinct, entries_setAll distinct, List.filter_append, List.filter_filter,
      replaced, List.append_nil]
    simp only [Bool.and_self]
  exact congrArg Scope.mk same

end DeployPlan.Scope
