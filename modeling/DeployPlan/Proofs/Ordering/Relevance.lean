import DeployPlan.Proofs.Ordering.Stability

/-!
Relevance. Of all declarations only those among the selected names count, and of a repeated one only
the first: to visit a dependency again changes nothing. Two sets of declarations that agree on these
give the same order or the same failure, although their visits take different numbers of steps.
-/

namespace DeployPlan

namespace Dependencies

variable {d d' : Dependencies} {selected : List String}

/-- The dependencies of a component that count among these names, in the order in which each of them
is declared first. -/
def relevant (d : Dependencies) (names : List String) (component : String) : List String :=
  ((d.of component).filter (· ∈ names)).eraseDups

theorem relevant_congr {names names' : List String} (same : ∀ n, n ∈ names ↔ n ∈ names')
    (component : String) : d.relevant names component = d.relevant names' component := by
  simp only [relevant, same]

theorem mem_of_relevant {names : List String} {component dependency : String}
    (member : dependency ∈ d.relevant names component) : dependency ∈ names := by
  rw [relevant, List.mem_eraseDups] at member
  exact of_decide_eq_true (List.mem_filter.mp member).2

/-- Visits that only add names, and that do nothing once they have been made. -/
structure Settles (visit : List String → String → Except Failure (List String))
    (names : List String) : Prop where
  grows : ∀ n ∈ names, ∀ a b, visit a n = .ok b → a ⊆ b
  idle : ∀ n ∈ names, ∀ a b c, visit a n = .ok b → b ⊆ c → visit c n = .ok c

theorem Settles.mono {visit : List String → String → Except Failure (List String)}
    {names fewer : List String} (settles : Settles visit names) (inside : fewer ⊆ names) :
    Settles visit fewer where
  grows n member := settles.grows n (inside member)
  idle n member := settles.idle n (inside member)

theorem foldlM_skip {visit : List String → String → Except Failure (List String)}
    {names placed : List String} {n : String} (settles : Settles visit names)
    (idle : ∀ c, placed ⊆ c → visit c n = .ok c) :
    (names.filter fun m => !m == n).foldlM visit placed = names.foldlM visit placed := by
  induction names generalizing placed with
  | nil => rfl
  | cons name names ih =>
    have rest : Settles visit names := settles.mono (List.subset_cons_self name names)
    rw [List.foldlM_cons]
    by_cases same : name = n
    · subst same
      rw [List.filter_cons_of_neg (by simp), idle placed (List.Subset.refl placed)]
      exact ih rest idle
    · rw [List.filter_cons_of_pos (by simpa using same), List.foldlM_cons]
      cases visited : visit placed name with
      | error e => rfl
      | ok next =>
        have grown := settles.grows name List.mem_cons_self placed next visited
        exact ih rest fun c wider => idle c (List.Subset.trans grown wider)

theorem foldlM_eraseDups {visit : List String → String → Except Failure (List String)}
    (names placed : List String) (settles : Settles visit names) :
    names.eraseDups.foldlM visit placed = names.foldlM visit placed := by
  match names with
  | [] => rfl
  | n :: names =>
    have shorter := List.length_filter_le (fun m => !m == n) names
    have rest : Settles visit names := settles.mono (List.subset_cons_self n names)
    rw [List.eraseDups_cons, List.foldlM_cons, List.foldlM_cons]
    cases visited : visit placed n with
    | error e => rfl
    | ok next =>
      -- A second visit changes nothing, wherever it comes.
      have once := foldlM_eraseDups (names.filter fun m => !m == n) next
        (rest.mono (List.filter_subset_self names))
      have skipped := foldlM_skip rest fun c wider =>
        settles.idle n List.mem_cons_self placed next c visited wider
      exact once.trans skipped
termination_by names.length
decreasing_by
  simp only [List.length_cons]
  omega

theorem settles_visit {fuel : Nat} {path names : List String} (inside : names ⊆ selected) :
    Settles (d.visit selected fuel path) names where
  grows n member a b visited := (visit_placing (inside member) visited).grows.subset
  idle n member a b c visited wider := by
    cases fuel with
    | zero => cases visited
    | succ fuel =>
      have placed := (visit_placing (inside member) visited).covers n (List.mem_singleton_self n)
      exact visit_of_mem (wider placed)

theorem foldlM_relevant {fuel : Nat} {path placed : List String} (name : String) :
    (d.relevant selected name).foldlM (d.visit selected fuel path) placed =
      ((d.of name).filter (· ∈ selected)).foldlM (d.visit selected fuel path) placed := by
  refine foldlM_eraseDups _ _ (settles_visit ?_)
  intro n member
  exact of_decide_eq_true (List.mem_filter.mp member).2

theorem foldlM_congr {f g : List String → String → Except Failure (List String)}
    {names : List String} (same : ∀ n ∈ names, ∀ placed, f placed n = g placed n)
    (placed : List String) : names.foldlM f placed = names.foldlM g placed := by
  induction names generalizing placed with
  | nil => rfl
  | cons n names ih =>
    obtain ⟨first, rest⟩ := List.forall_mem_cons.mp same
    rw [List.foldlM_cons, List.foldlM_cons, first]
    exact bind_congr fun next => ih rest next

theorem visit_congr (same : ∀ n ∈ selected, d.relevant selected n = d'.relevant selected n)
    {fuel : Nat} {path placed : List String} {name : String} (chosen : name ∈ selected) :
    d.visit selected fuel path placed name = d'.visit selected fuel path placed name := by
  induction fuel generalizing path placed name with
  | zero => rfl
  | succ fuel ih =>
    have before : ((d.of name).filter (· ∈ selected)).foldlM
          (d.visit selected fuel (name :: path)) placed =
        ((d'.of name).filter (· ∈ selected)).foldlM
          (d'.visit selected fuel (name :: path)) placed := by
      rw [← foldlM_relevant, ← foldlM_relevant, same name chosen]
      refine foldlM_congr (fun n member placed => ih (mem_of_relevant member)) placed
    rw [visit_succ, visit_succ, before]

theorem arrange_congr (same : ∀ n ∈ selected, d.relevant selected n = d'.relevant selected n) :
    d.arrange selected = d'.arrange selected :=
  foldlM_congr (fun _ chosen _ => visit_congr same chosen) []

theorem ordering_congr {names : List String}
    (same : ∀ n ∈ names, d.relevant names n = d'.relevant names n) (projects : ProjectStore)
    (project : Project) :
    d.ordering projects project names = d'.ordering projects project names := by
  rw [ordering, ordering]
  refine bind_congr fun roots => bind_congr fun declared => ?_
  dsimp only
  split
  · rfl
  · rename_i nothingMissing
    have members := mem_names_iff_of_known nothingMissing
    refine congrArg (· >>= _) (arrange_congr fun n member => ?_)
    rw [relevant_congr members, relevant_congr members, same n ((members n).mp member)]

theorem of_append (earlier later : List (String × String)) (n : String) :
    (⟨earlier ++ later⟩ : Dependencies).of n =
      (⟨earlier⟩ : Dependencies).of n ++ (⟨later⟩ : Dependencies).of n :=
  List.filterMap_append

theorem of_cons (component dependency : String) (later : List (String × String)) (n : String) :
    (⟨(component, dependency) :: later⟩ : Dependencies).of n =
      if component = n then dependency :: (⟨later⟩ : Dependencies).of n
      else (⟨later⟩ : Dependencies).of n := by
  by_cases own : component = n <;> simp [Dependencies.of, own]

theorem relevant_insert {names : List String} {earlier : List (String × String)}
    {component dependency : String}
    (idle : component ∉ names ∨ dependency ∉ names ∨ (component, dependency) ∈ earlier)
    (later : List (String × String)) {n : String} (named : n ∈ names) :
    (⟨earlier ++ (component, dependency) :: later⟩ : Dependencies).relevant names n =
      (⟨earlier ++ later⟩ : Dependencies).relevant names n := by
  rw [relevant, relevant, of_append, of_append, of_cons]
  by_cases own : component = n
  · subst own
    rw [if_pos rfl]
    by_cases wanted : dependency ∈ names
    · have before : (component, dependency) ∈ earlier :=
        (idle.resolve_left fun foreign => foreign named).resolve_left fun foreign => foreign wanted
      rw [List.filter_append, List.filter_append, List.filter_cons_of_pos (by simpa using wanted)]
      refine eraseDups_append_cons_of_mem (List.mem_filter.mpr ⟨?_, by simpa using wanted⟩) _
      exact mem_of_iff.mpr before
    · rw [List.filter_append, List.filter_append, List.filter_cons_of_neg (by simpa using wanted)]
  · rw [if_neg own]

theorem of_eq_map (d : Dependencies) (n : String) :
    d.of n = (d.declared.filter (·.1 == n)).map (·.2) := by
  obtain ⟨declared⟩ := d
  induction declared with
  | nil => rfl
  | cons declaration later ih =>
    obtain ⟨component, dependency⟩ := declaration
    rw [of_cons, ih]
    by_cases own : component = n
    · rw [if_pos own, List.filter_cons_of_pos (by simpa using own)]
      rfl
    · rw [if_neg own, List.filter_cons_of_neg (by simpa using own)]

/-- Declarations that agree on the selected dependencies of the selected components, each counted
where it is declared first, give the same order or the same failure. So a declaration on or of a
component that is not selected never matters, nor does a repeated one, nor how the declarations of
different components are mixed. -/
theorem ordering_relevant (projects : ProjectStore) (project : Project) (names : List String) :
    (∀ d d' : Dependencies, (∀ n ∈ names, d.relevant names n = d'.relevant names n) →
      d.ordering projects project names = d'.ordering projects project names) ∧
    (∀ earlier later component dependency,
      component ∉ names ∨ dependency ∉ names ∨ (component, dependency) ∈ earlier →
      (⟨earlier ++ (component, dependency) :: later⟩ : Dependencies).ordering projects project
          names =
        (⟨earlier ++ later⟩ : Dependencies).ordering projects project names) ∧
    ∀ d d' : Dependencies,
      (∀ n, d.declared.filter (·.1 == n) = d'.declared.filter (·.1 == n)) →
      d.ordering projects project names = d'.ordering projects project names := by
  refine ⟨fun d d' same => ordering_congr same projects project, ?_, ?_⟩
  · intro earlier later component dependency idle
    exact ordering_congr (fun n named => relevant_insert idle later named) projects project
  · intro d d' mixed
    refine ordering_congr (fun n _ => ?_) projects project
    rw [relevant, relevant, of_eq_map, of_eq_map, mixed n]

def chatty : Dependencies :=
  ⟨[("API", "DB"), ("UI", "API"), ("API", "Log"), ("UI", "API"), ("DB", "UI"), ("Log", "API")]⟩

def terse : Dependencies := ⟨[("DB", "UI"), ("UI", "API"), ("API", "DB")]⟩

theorem ordering_relevant_cycle :
    (∀ n ∈ ["API", "DB", "UI"],
      chatty.relevant ["API", "DB", "UI"] n = terse.relevant ["API", "DB", "UI"] n) ∧
    terse.ordering layeredStore payments ["API", "DB", "UI"] =
      .error (.invalid (.dependencyCycle "UI")) ∧
    chatty.ordering layeredStore payments ["API", "DB", "UI"] =
      .error (.invalid (.dependencyCycle "UI")) := by
  have same : ∀ n ∈ ["API", "DB", "UI"],
      chatty.relevant ["API", "DB", "UI"] n = terse.relevant ["API", "DB", "UI"] n := by decide
  have failed : terse.ordering layeredStore payments ["API", "DB", "UI"] =
      .error (.invalid (.dependencyCycle "UI")) := by cbv
  obtain ⟨agree, -⟩ := ordering_relevant layeredStore payments ["API", "DB", "UI"]
  exact ⟨same, failed, (agree chatty terse same).trans failed⟩

end Dependencies

end DeployPlan
