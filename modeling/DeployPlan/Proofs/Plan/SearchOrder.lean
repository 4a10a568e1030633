import DeployPlan.Proofs.Catalog.History
import DeployPlan.Proofs.Plan.DepthBound

/-!
The order in which forests are searched. It matters to planning only when a selected name is foreign to
the project: the name is then looked for in all forests, and the first one that decides gives the
refusal. Where two forests decide differently, the refusal hangs on which of them is searched first; a
plan never does.
-/

namespace DeployPlan

open Component

/-- Planning gets to look for this name in all forests: the project and both environments are registered,
and the name is the least selected one that the project's own forest does not hold. -/
structure Catalog.LooksFor (c : Catalog) (limit : Nat) (order : CopyOrder) (project : Project)
    (n : String) : Prop where
  registered : c.projects.lookup order.project = some project
  source : ∃ e, c.environments.lookup order.source = some e
  target : ∃ e, c.environments.lookup order.target = some e
  least : LeastStranger limit (c.roots project.id) order.selected n
  absent : contains limit n (c.roots project.id) = .ok false

/-- What the forests of a catalog give as reasons to refuse a name that is foreign to the project. -/
inductive Catalog.Refuses (c : Catalog) (project : Project) (n : String) : Failure → Prop
  | foreign {entry : UInt64 × List Component} {b : Component} : entry ∈ c.forests →
      findNamed 64 n entry.2 = .ok (some b) →
      Catalog.Refuses c project n (.invalid (.foreignComponent n project.name))
  | tooDeep {entry : UInt64 × List Component} {m : String} : entry ∈ c.forests →
      findNamed 64 n entry.2 = .error (.treeTooDeep m 64) →
      Catalog.Refuses c project n (.treeTooDeep m 64)
  | unknown : (∀ entry ∈ c.forests, findNamed 64 n entry.2 = .ok none) →
      Catalog.Refuses c project n (.componentNotFound n)

def refusalOf (project : Project) (n : String) : Except Failure (Option Component) → Failure
  | .ok (some _) => .invalid (.foreignComponent n project.name)
  | .ok none => .componentNotFound n
  | .error e => e

namespace Catalog

variable {c : Catalog} {project : Project} {n : String} {forests : List (UInt64 × List Component)}

theorem exists_error_of_findNamed {limit : Nat} {roots : List Component} {e : Failure}
    (failed : findNamed limit n roots = .error e) : ∃ m, e = .treeTooDeep m limit := by
  have met := found_findNamed limit n roots
  rw [failed] at met
  cases met with
  | tooDeep _ => exact ⟨_, rfl⟩

theorem refuses_iff {e : Failure} :
    c.Refuses project n e ↔
      ∃ order : List (UInt64 × List Component), order.Perm c.forests ∧
        refusalOf project n (findComponent n order) = e := by
  constructor
  · intro refused
    -- A forest that decides can come first, so each of the three is the answer of some order.
    have given : ∃ answer, refusalOf project n answer = e ∧
        ∃ order : List (UInt64 × List Component), order.Perm c.forests ∧
          findComponent n order = answer := by
      cases refused with
      | foreign member found =>
        refine ⟨_, rfl, exists_findComponent_iff _ |>.mpr (.inl ⟨?_, _, member, found⟩)⟩
        exact fun impossible => by cases impossible
      | tooDeep member found =>
        refine ⟨_, rfl, exists_findComponent_iff _ |>.mpr (.inl ⟨?_, _, member, found⟩)⟩
        exact fun impossible => by cases impossible
      | unknown undecided =>
        exact ⟨_, rfl, exists_findComponent_iff _ |>.mpr (.inr ⟨rfl, undecided⟩)⟩
    obtain ⟨_, refusal, order, same, rfl⟩ := given
    exact ⟨order, same, refusal⟩
  · rintro ⟨order, same, rfl⟩
    rcases (exists_findComponent_iff _).mp ⟨order, same, rfl⟩ with
      ⟨decided, entry, member, found⟩ | ⟨nothing, undecided⟩
    · cases answer : findComponent n order with
      | error e =>
        rw [answer] at found
        obtain ⟨m, rfl⟩ := exists_error_of_findNamed found
        exact .tooDeep member found
      | ok found? =>
        cases found? with
        | none => exact absurd answer decided
        | some b => exact .foreign member (found.trans answer)
    · rw [nothing]
      exact .unknown undecided

theorem Refuses.unique_of_low {e e' : Failure}
    (low : ∀ entry ∈ c.forests, heightOfAll entry.2 ≤ 64) (first : c.Refuses project n e)
    (second : c.Refuses project n e') : e = e' := by
  have searched : ∀ entry ∈ c.forests, ∀ m, findNamed 64 n entry.2 ≠ .error (.treeTooDeep m 64) := by
    intro entry member m failed
    have met := found_findNamed 64 n entry.2
    rw [failed] at met
    cases met with
    | tooDeep deep => exact Nat.not_lt.mpr (low entry member) deep
  cases first with
  | tooDeep member failed => exact absurd failed (searched _ member _)
  | foreign member found =>
    cases second with
    | foreign _ _ => rfl
    | tooDeep member failed => exact absurd failed (searched _ member _)
    | unknown undecided => cases (undecided _ member).symm.trans found
  | unknown undecided =>
    cases second with
    | foreign member found => cases (undecided _ member).symm.trans found
    | tooDeep member failed => exact absurd failed (searched _ member _)
    | unknown _ => rfl

end Catalog

theorem Dependencies.ordering_congr_roots {d : Dependencies} {projects projects' : ProjectStore}
    {project : Project} (same : projects.roots project.id = projects'.roots project.id)
    (names : List String) :
    d.ordering projects project names = d.ordering projects' project names := by
  rw [ordering, ordering, same]

namespace Planner

variable {σ : Type} {c : Catalog} {d : Dependencies} {limit : Nat} {project : Project}
  {forests : List (UInt64 × List Component)}

theorem selectionAnswer_of_least {selected : List String} {n : String}
    (first : LeastStranger limit (c.roots project.id) selected n) :
    (c.plannerWithin d limit).selectionAnswer project selected =
      match contains limit n (c.roots project.id) with
      | .error e => .error e
      | .ok _ => .error (refusalOf project n (Catalog.findComponent n c.forests)) := by
  have store : (c.plannerWithin d limit).projects.component n = Catalog.findComponent n c.forests :=
    rfl
  have bound : (c.plannerWithin d limit).maxDepth = limit := rfl
  have checked := checkMembers_cons (c.plannerWithin d limit) project (c.roots project.id) n []
  rw [store, bound] at checked
  cases answer : contains limit n (c.roots project.id) with
  | error e => exact selectionAnswer_of_stranger first (by rw [checked, answer])
  | ok found =>
    cases found with
    | true => exact absurd answer first.2.1
    | false =>
      refine selectionAnswer_of_stranger first ?_
      rw [checked, answer]
      cases Catalog.findComponent n c.forests with
      | error e => rfl
      | ok found? => cases found? <;> rfl

theorem selectionAnswer_inOrder {selected : List String} (distinct : (c.forests.map (·.1)).Nodup)
    (same : forests.Perm c.forests)
    (settled : ∀ n, LeastStranger limit (c.roots project.id) selected n →
      contains limit n (c.roots project.id) ≠ .ok false) :
    ((c.inOrder forests).plannerWithin d limit).selectionAnswer project selected =
      (c.plannerWithin d limit).selectionAnswer project selected := by
  have roots : (c.inOrder forests).roots project.id = c.roots project.id :=
    Catalog.roots_inOrder distinct same project.id
  by_cases members : ∀ n ∈ selected, contains limit n (c.roots project.id) = .ok true
  · rw [selectionAnswer_of_members (c := c.inOrder forests) (by rwa [roots]),
      selectionAnswer_of_members members, roots]
    exact Dependencies.ordering_congr_roots (congrArg Except.ok roots) _
  · obtain ⟨n, first⟩ := exists_leastStranger members
    rw [selectionAnswer_of_least (c := c.inOrder forests) (by rwa [roots]),
      selectionAnswer_of_least first, roots]
    cases answer : contains limit n (c.roots project.id) with
    | error e => rfl
    | ok found =>
      cases found with
      | true => exact absurd answer first.2.1
      | false => exact absurd answer (settled n first)

def answerInOrder (c : Catalog) (d : Dependencies) (limit : Nat) (order : CopyOrder) (s : σ)
    (forests : List (UInt64 × List Component)) : Except Failure (List DeploymentRequest) :=
  ((((c.inOrder forests).plannerWithin d limit).plan order).run s).result

variable {order : CopyOrder} {s : σ} {n : String}

theorem answerInOrder_of_settled (distinct : (c.forests.map (·.1)).Nodup)
    (same : forests.Perm c.forests) (settled : ∀ project n, ¬ c.LooksFor limit order project n) :
    answerInOrder c d limit order s forests = answerInOrder c d limit order s c.forests := by
  rw [answerInOrder, answerInOrder, result_plan, result_plan, project_eq, project_eq,
    environment_eq, environment_eq, environment_eq, environment_eq]
  cases registered : c.projects.lookup order.project with
  | none => rfl
  | some project =>
    cases source : c.environments.lookup order.source with
    | none => rfl
    | some source' =>
      cases target : c.environments.lookup order.target with
      | none => rfl
      | some target' =>
        -- The order of the forests matters to the selection alone.
        have selection := selectionAnswer_inOrder (d := d) distinct same fun n first absent =>
          settled project n ⟨registered, ⟨source', source⟩, ⟨target', target⟩, first, absent⟩
        change ((c.inOrder forests).plannerWithin d limit).selectionAnswer project order.selected >>= _ =
          (c.plannerWithin d limit).selectionAnswer project order.selected >>= _
        rw [selection]
        have bound : ((c.inOrder forests).plannerWithin d limit).maxDepth =
            (c.plannerWithin d limit).maxDepth := rfl
        exact bind_congr fun ordered => bind_congr fun statuses =>
          joinedAnswer_congr bound source' target' order (joined statuses ordered)

theorem answerInOrder_of_looksFor (distinct : (c.forests.map (·.1)).Nodup)
    (same : forests.Perm c.forests) (looks : c.LooksFor limit order project n) :
    answerInOrder c d limit order s forests =
      .error (refusalOf project n (Catalog.findComponent n forests)) := by
  obtain ⟨registered, ⟨source, sourceFound⟩, ⟨target, targetFound⟩, first, absent⟩ := looks
  have roots : (c.inOrder forests).roots project.id = c.roots project.id :=
    Catalog.roots_inOrder distinct same project.id
  have refused := selectionAnswer_of_least (c := c.inOrder forests) (d := d) (by rwa [roots])
  rw [roots, absent] at refused
  rw [answerInOrder, result_plan, project_eq, environment_eq, environment_eq, registered,
    sourceFound, targetFound]
  change ((c.inOrder forests).plannerWithin d limit).selectionAnswer project order.selected >>= _ = _
  rw [refused]
  rfl

theorem exists_answerInOrder_iff (distinct : (c.forests.map (·.1)).Nodup)
    (looks : c.LooksFor limit order project n) (answer : Except Failure (List DeploymentRequest)) :
    (∃ forests, forests.Perm c.forests ∧ answerInOrder c d limit order s forests = answer) ↔
      ∃ e, c.Refuses project n e ∧ answer = .error e := by
  constructor
  · rintro ⟨forests, same, rfl⟩
    exact ⟨_, Catalog.refuses_iff.mpr ⟨forests, same, rfl⟩,
      answerInOrder_of_looksFor distinct same looks⟩
  · rintro ⟨e, reason, rfl⟩
    obtain ⟨forests, same, rfl⟩ := Catalog.refuses_iff.mp reason
    exact ⟨forests, same, answerInOrder_of_looksFor distinct same looks⟩

theorem answerInOrder_of_unique (distinct : (c.forests.map (·.1)).Nodup)
    (unique : ∀ project n, c.LooksFor limit order project n →
      ∀ e e', c.Refuses project n e → c.Refuses project n e' → e = e')
    (same : forests.Perm c.forests) :
    answerInOrder c d limit order s forests = answerInOrder c d limit order s c.forests := by
  by_cases looks : ∃ project n, c.LooksFor limit order project n
  · obtain ⟨project, n, looks⟩ := looks
    obtain ⟨e, reason, answer⟩ := (exists_answerInOrder_iff distinct looks _).mp ⟨forests, same, rfl⟩
    obtain ⟨e', reason', answer'⟩ :=
      (exists_answerInOrder_iff distinct looks _).mp ⟨c.forests, .refl _, rfl⟩
    rw [answer, answer', unique project n looks e e' reason reason']
  · exact answerInOrder_of_settled distinct same fun project n found => looks ⟨project, n, found⟩

/-- What a plan answers over all orders in which the forests may be searched. Where a name has to be
looked for in all of them, the answers are the refusals that the forests give; so the order does not
matter exactly when they give one refusal only, as forests of at most 64 levels do. A plan that is made
does not depend on the order. -/
theorem plan_search_order (c : Catalog) (distinct : (c.forests.map (·.1)).Nodup) (d : Dependencies)
    (limit : Nat) (order : CopyOrder) (s : σ) :
    let planned := answerInOrder c d limit order s
    (∀ project n, c.LooksFor limit order project n → ∀ answer,
      (∃ forests, forests.Perm c.forests ∧ planned forests = answer) ↔
        ∃ e, c.Refuses project n e ∧ answer = .error e) ∧
    ((∀ forests, forests.Perm c.forests → planned forests = planned c.forests) ↔
      ∀ project n, c.LooksFor limit order project n →
        ∀ e e', c.Refuses project n e → c.Refuses project n e' → e = e') ∧
    ((∀ entry ∈ c.forests, heightOfAll entry.2 ≤ 64) →
      ∀ forests, forests.Perm c.forests → planned forests = planned c.forests) ∧
    (∀ forests, forests.Perm c.forests → ∀ requests, planned forests = .ok requests →
      planned c.forests = .ok requests) := by
  intro planned
  refine ⟨fun project n => exists_answerInOrder_iff distinct, ⟨?_, ?_⟩, ?_, ?_⟩
  · intro alike project n looks e e' reason reason'
    have only : ∀ e, c.Refuses project n e → planned c.forests = .error e := by
      intro e reason
      obtain ⟨forests, same, answer⟩ :=
        (exists_answerInOrder_iff distinct looks _).mpr ⟨e, reason, rfl⟩
      exact (alike forests same).symm.trans answer
    exact Except.error.inj ((only e reason).symm.trans (only e' reason'))
  · intro unique forests
    exact answerInOrder_of_unique distinct unique
  · intro low forests
    exact answerInOrder_of_unique distinct fun _ _ _ _ _ reason reason' =>
      reason.unique_of_low low reason'
  · intro forests same requests made
    rw [← made]
    refine (answerInOrder_of_settled distinct same fun project n looks => ?_).symm
    -- a foreign name would have been refused
    cases made.symm.trans (answerInOrder_of_looksFor distinct same looks)

def contested : Catalog := .ofHistory [
  .project payments [leaf "Site" "site.sh"],
  .project (Catalog.numbered 2 "Billing") [leaf "Ledger" "ledger.sh"],
  .project (Catalog.numbered 3 "Archive") [tower 64],
  .environment { id := 1, name := "DEV" },
  .environment { id := 2, name := "UAT" }]

theorem plan_search_order_contested :
    let planned := answerInOrder contested {} 64 (.ofNames ["Ledger"]) ()
    (contested.forests.map (·.1)).Nodup ∧
    contested.LooksFor 64 (.ofNames ["Ledger"]) payments "Ledger" ∧
    (∃ forests, forests.Perm contested.forests ∧
      planned forests = .error (.invalid (.foreignComponent "Ledger" "Payments"))) ∧
    ∃ forests, forests.Perm contested.forests ∧
      planned forests = .error (.treeTooDeep "leaf" 64) := by
  intro planned
  have distinct : (contested.forests.map (·.1)).Nodup := Catalog.registers_forests.nodup_keys _
  have absent : contains 64 "Ledger" (contested.roots payments.id) = .ok false := by decide
  have first : LeastStranger 64 (contested.roots payments.id) ["Ledger"] "Ledger" :=
    ⟨by simp, by simp [absent], by simp⟩
  have looks : contested.LooksFor 64 (.ofNames ["Ledger"]) payments "Ledger" :=
    ⟨rfl, ⟨_, rfl⟩, ⟨_, rfl⟩, first, absent⟩
  have answers := (plan_search_order contested distinct {} 64 (.ofNames ["Ledger"]) ()).1
    payments "Ledger" looks
  have ledger : (2, [leaf "Ledger" "ledger.sh"]) ∈ contested.forests := .tail _ (.head _)
  have archive : (3, [tower 64]) ∈ contested.forests := .tail _ (.tail _ (.head _))
  exact ⟨distinct, looks, (answers _).mpr ⟨_, .foreign ledger rfl, rfl⟩,
    (answers _).mpr ⟨_, .tooDeep archive (by cbv), rfl⟩⟩

/-- The foreign `Ledger` is refused for itself or for the depth of the archive. -/
theorem refusal_hangs_on_order :
    ¬ ∀ forests, forests.Perm contested.forests →
      answerInOrder contested {} 64 (.ofNames ["Ledger"]) () forests =
        answerInOrder contested {} 64 (.ofNames ["Ledger"]) () contested.forests := by
  intro alike
  have found : answerInOrder contested {} 64 (.ofNames ["Ledger"]) () contested.forests =
      .error (.invalid (.foreignComponent "Ledger" "Payments")) := by cbv
  have deep : answerInOrder contested {} 64 (.ofNames ["Ledger"]) () contested.forests.reverse =
      .error (.treeTooDeep "leaf" 64) := by cbv
  cases deep.symm.trans ((alike _ (List.reverse_perm _)).trans found)

end Planner

end DeployPlan
