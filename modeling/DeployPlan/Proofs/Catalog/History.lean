import Mathlib.Data.List.Induction
import DeployPlan.Proofs.Catalog.Enumeration

/-!
Histories of a catalog. Projects are kept under their names and forests under the numbers of projects,
and the latest addition under a name or a number is the one that counts. Where names and numbers go
together, every project has the forest it was added with last, and no other forest is searched. A number
that moves to another name takes the forest of its new project with it; a name that moves to another
number leaves a forest behind.
-/

namespace DeployPlan.Catalog

open Component

inductive Change
  | project (project : Project) (roots : List Component)
  | environment (environment : Environment)
  | statuses (environment : UInt64) (statuses : List BuildStatus)
  | server (environment : UInt64) (server : Server)
  | database (environment : UInt64) (database : Database)
  | grant (environment : UInt64) (grant : DatabaseGrant)
  | fileShare (environment : UInt64) (path : String)
  | configFile (environment : UInt64) (path : String)

def after (c : Catalog) : Change → Catalog
  | .project p roots => c.addProject p roots
  | .environment e => c.addEnvironment e
  | .statuses environment ss => c.setStatuses environment ss
  | .server environment s => c.addServer environment s
  | .database environment d => c.addDatabase environment d
  | .grant environment g => c.addGrant environment g
  | .fileShare environment path => c.setFileShare environment path
  | .configFile environment path => c.setConfigFile environment path

def ofHistory (history : List Change) : Catalog :=
  history.foldl after {}

def Latest (kind : Project → Prop) (history : List Change) (p : Project) (roots : List Component) :
    Prop :=
  ∃ earlier later, history = earlier ++ .project p roots :: later ∧ kind p ∧
    ∀ q others, .project q others ∈ later → ¬ kind q

section

variable {kind : Project → Prop} {history : List Change} {p q : Project}
  {roots others : List Component}

theorem not_latest_nil : ¬ Latest kind [] p roots := by
  rintro ⟨earlier, later, split, -⟩
  simp at split

theorem latest_concat_of_kind (counts : kind p) :
    Latest kind (history ++ [.project p roots]) q others ↔ q = p ∧ others = roots := by
  constructor
  · rintro ⟨earlier, later, split, -, superseded⟩
    rcases List.eq_nil_or_concat later with rfl | ⟨before, last, rfl⟩
    · obtain ⟨-, same⟩ := List.append_inj' split rfl
      cases same
      exact ⟨rfl, rfl⟩
    · rw [List.concat_eq_append, ← List.cons_append, ← List.append_assoc] at split
      obtain ⟨-, same⟩ := List.append_inj' split rfl
      cases same
      exact absurd counts (superseded p roots (by simp))
  · rintro ⟨rfl, rfl⟩
    exact ⟨history, [], rfl, counts, by simp⟩

theorem latest_concat_of_not {change : Change}
    (other : ∀ p roots, change = .project p roots → ¬ kind p) :
    Latest kind (history ++ [change]) q others ↔ Latest kind history q others := by
  constructor
  · rintro ⟨earlier, later, split, counts, superseded⟩
    rcases List.eq_nil_or_concat later with rfl | ⟨before, last, rfl⟩
    · obtain ⟨-, same⟩ := List.append_inj' split rfl
      exact absurd counts (other q others (List.singleton_inj.mp same))
    · rw [List.concat_eq_append, ← List.cons_append, ← List.append_assoc] at split
      obtain ⟨rfl, -⟩ := List.append_inj' split rfl
      refine ⟨earlier, before, rfl, counts, fun r more member => ?_⟩
      exact superseded r more (by simp [member])
  · rintro ⟨earlier, later, rfl, counts, superseded⟩
    refine ⟨earlier, later ++ [change], by simp, counts, fun r more member => ?_⟩
    rcases List.mem_append.mp member with member | member
    · exact superseded r more member
    · exact other r more (List.mem_singleton.mp member).symm

theorem exists_latest (kind : Project → Prop) (member : .project p roots ∈ history)
    (counts : kind p) :
    ∃ q others, Latest kind history q others := by
  induction history using List.reverseRecOn with
  | nil => cases member
  | append_singleton history change ih =>
    by_cases adds : ∃ q others, change = .project q others ∧ kind q
    · obtain ⟨q, others, rfl, own⟩ := adds
      exact ⟨q, others, (latest_concat_of_kind own).mpr ⟨rfl, rfl⟩⟩
    · have other : ∀ q others, change = .project q others → ¬ kind q := fun q others same own =>
        adds ⟨q, others, same, own⟩
      simp only [latest_concat_of_not other]
      rcases List.mem_append.mp member with member | member
      · exact ih member
      · exact absurd counts (other p roots (List.mem_singleton.mp member).symm)

theorem Latest.mem (latest : Latest kind history p roots) : .project p roots ∈ history := by
  obtain ⟨earlier, later, rfl, -⟩ := latest
  simp

theorem Latest.holds (latest : Latest kind history p roots) : kind p := by
  obtain ⟨_, _, _, counts, _⟩ := latest
  exact counts

theorem Latest.unique {kind' : Project → Prop} (first : Latest kind history p roots)
    (second : Latest kind' history q others) (hp : kind' p) (hq : kind q) :
    q = p ∧ others = roots := by
  obtain ⟨earlier, later, rfl, -, superseded⟩ := first
  obtain ⟨earlier', later', split, -, superseded'⟩ := second
  -- If one stood behind the other, the earlier one would have been replaced.
  rcases List.append_eq_append_iff.mp split with ⟨between, rfl, tail⟩ | ⟨between, rfl, tail⟩
  · cases between with
    | nil =>
      obtain ⟨same, -⟩ := List.cons.inj tail
      cases same
      exact ⟨rfl, rfl⟩
    | cons change between =>
      obtain ⟨-, rfl⟩ := List.cons.inj tail
      exact absurd hq (superseded q others (by simp))
  · cases between with
    | nil =>
      obtain ⟨same, -⟩ := List.cons.inj tail
      cases same
      exact ⟨rfl, rfl⟩
    | cons change between =>
      obtain ⟨-, rfl⟩ := List.cons.inj tail
      exact absurd hp (superseded' p roots (by simp))

end

/-- A part of a catalog that is written by the addition of projects alone. -/
structure Registers {κ α : Type} [DecidableEq κ] (part : Catalog → List (κ × α))
    (key : Project → κ) (value : Project → List Component → α) : Prop where
  empty : part {} = []
  project : ∀ c p roots, part (c.addProject p roots) = putEntry (key p) (value p roots) (part c)
  others : ∀ c change, (∀ p roots, change ≠ .project p roots) → part (after c change) = part c

theorem registers_projects : Registers (·.projects) (·.name) fun p _ => p where
  empty := rfl
  project _ _ _ := rfl
  others c change other := by
    cases change with
    | project p roots => exact absurd rfl (other p roots)
    | _ => rfl

theorem registers_forests : Registers (·.forests) (·.id) fun _ roots => roots where
  empty := rfl
  project _ _ _ := rfl
  others c change other := by
    cases change with
    | project p roots => exact absurd rfl (other p roots)
    | _ => rfl

theorem ofHistory_concat (history : List Change) (change : Change) :
    ofHistory (history ++ [change]) = after (ofHistory history) change := by
  rw [ofHistory, List.foldl_concat]
  rfl

namespace Registers

variable {κ α : Type} [DecidableEq κ] {part : Catalog → List (κ × α)} {key : Project → κ}
  {value : Project → List Component → α}

theorem lookup_iff [BEq κ] [LawfulBEq κ] (registers : Registers part key value)
    (history : List Change) (k : κ) (a : α) :
    (part (ofHistory history)).lookup k = some a ↔
      ∃ p roots, Latest (key · = k) history p roots ∧ value p roots = a := by
  -- Backwards, so that the change made last decides.
  induction history using List.reverseRecOn with
  | nil =>
    have nothing : part (ofHistory []) = [] := registers.empty
    simp [nothing, not_latest_nil]
  | append_singleton history change ih =>
    rw [ofHistory_concat]
    by_cases adds : ∃ p roots, change = .project p roots
    · obtain ⟨p, roots, rfl⟩ := adds
      rw [after, registers.project]
      by_cases same : key p = k
      · subst same
        rw [lookup_putEntry_self, Option.some.injEq]
        simp [latest_concat_of_kind]
      · have other : ∀ q others, Change.project p roots = .project q others → ¬ key q = k := by
          rintro _ _ ⟨⟩
          exact same
        rw [lookup_putEntry_of_ne (Ne.symm same), ih]
        simp only [latest_concat_of_not other]
    · have other : ∀ p roots, change ≠ .project p roots := fun p roots same =>
        adds ⟨p, roots, same⟩
      rw [registers.others _ _ other, ih]
      simp only [latest_concat_of_not fun p roots same => absurd same (other p roots)]

theorem nodup_keys (registers : Registers part key value) (history : List Change) :
    ((part (ofHistory history)).map (·.1)).Nodup := by
  induction history using List.reverseRecOn with
  | nil =>
    have nothing : part (ofHistory []) = [] := registers.empty
    rw [nothing]
    exact List.nodup_nil
  | append_singleton history change ih =>
    rw [ofHistory_concat]
    by_cases adds : ∃ p roots, change = .project p roots
    · obtain ⟨p, roots, rfl⟩ := adds
      rw [after, registers.project]
      exact nodup_keys_putEntry ih _ _
    · rw [registers.others _ _ fun p roots same => adds ⟨p, roots, same⟩]
      exact ih

end Registers

section

variable {history : List Change} {name : String} {p : Project} {roots : List Component}

theorem project_ofHistory :
    (ofHistory history).projectStore.project name = .ok (some p) ↔
      ∃ roots, Latest (·.name = name) history p roots := by
  have found := registers_projects.lookup_iff history name p
  simp only [exists_and_right, exists_eq_right] at found
  rw [← found]
  exact ⟨Except.ok.inj, congrArg Except.ok⟩

theorem lookup_forest_ofHistory {number : UInt64} :
    (ofHistory history).forests.lookup number = some roots ↔
      ∃ p, Latest (·.id = number) history p roots := by
  simpa using registers_forests.lookup_iff history number roots

theorem roots_ofHistory {number : UInt64} (latest : Latest (·.id = number) history p roots) :
    (ofHistory history).projectStore.roots number = .ok roots := by
  have found := lookup_forest_ofHistory.mpr ⟨p, latest⟩
  change Except.ok ((ofHistory history).roots number) = _
  rw [Catalog.roots, found]
  rfl

theorem own_or_shared (latest : Latest (·.name = name) history p roots) :
    (ofHistory history).projectStore.roots p.id = .ok roots ∨
      ∃ q others, Latest (·.id = p.id) history q others ∧ q.name ≠ name ∧
        (ofHistory history).projectStore.roots p.id = .ok others := by
  obtain ⟨q, others, sameNumber⟩ := exists_latest (·.id = p.id) latest.mem rfl
  by_cases sameName : q.name = name
  · obtain ⟨rfl, rfl⟩ := latest.unique sameNumber rfl sameName
    exact .inl (roots_ofHistory sameNumber)
  · exact .inr ⟨q, others, sameNumber, sameName, roots_ofHistory sameNumber⟩

theorem current_or_left (latest : Latest (·.id = p.id) history p roots) :
    (∃ name q, (ofHistory history).projectStore.project name = .ok (some q) ∧
        (ofHistory history).projectStore.roots q.id = .ok roots) ∨
      ∃ q others, Latest (·.name = p.name) history q others ∧ q.id ≠ p.id := by
  obtain ⟨q, others, sameName⟩ := exists_latest (·.name = p.name) latest.mem rfl
  by_cases sameNumber : q.id = p.id
  · obtain ⟨rfl, rfl⟩ := latest.unique sameName rfl sameNumber
    exact .inl ⟨_, _, project_ofHistory.mpr ⟨_, sameName⟩, roots_ofHistory latest⟩
  · exact .inr ⟨q, others, sameName, sameNumber⟩

theorem exists_latest_of_component {forests : List (UInt64 × List Component)} {n : String}
    {b : Component} (same : forests.Perm (ofHistory history).forests)
    (found : ((ofHistory history).inOrder forests).projectStore.component n = .ok (some b)) :
    ∃ p roots, Latest (·.id = p.id) history p roots ∧ b ∈ preOrder roots := by
  change findComponent n forests = .ok (some b) at found
  rcases findComponent_cases n forests with ⟨nothing, -⟩ | ⟨-, entry, member, answer⟩
  · cases nothing.symm.trans found
  · obtain ⟨number, roots⟩ := entry
    have registered := same.mem_iff.mp member
    rw [← lookup_eq_some_iff_mem (registers_forests.nodup_keys history)] at registered
    obtain ⟨p, latest⟩ := lookup_forest_ofHistory.mp registered
    obtain rfl : p.id = number := latest.holds
    have met := found_findNamed defaultMaxDepth n roots
    rw [answer, found] at met
    cases met with
    | present inside _ => exact ⟨p, roots, latest, inside⟩

end

/-- Every project that is found has the forest it was added with last, and what is found in any forest
belongs to a project that is found. -/
structure Consistent (history : List Change) : Prop where
  own : ∀ name p roots, (ofHistory history).projectStore.project name = .ok (some p) →
    Latest (·.name = name) history p roots →
    (ofHistory history).projectStore.roots p.id = .ok roots
  current : ∀ forests, forests.Perm (ofHistory history).forests → ∀ n b,
    ((ofHistory history).inOrder forests).projectStore.component n = .ok (some b) →
    ∃ name p roots, (ofHistory history).projectStore.project name = .ok (some p) ∧
      (ofHistory history).projectStore.roots p.id = .ok roots ∧ b ∈ preOrder roots

/-- After any history, each project that is found is the one that was added last under its name, and
its forest is the one it was added with, unless its number went to another name later. Whatever is
found in any forest belongs to a project that is found, unless the name that its forest was last added
under has got another number since. Where names and numbers go together, neither happens. -/
theorem forests_ofHistory (history : List Change) :
    let c := ofHistory history
    (∀ name p, c.projectStore.project name = .ok (some p) →
      ∃ roots, Latest (·.name = name) history p roots ∧
        (c.projectStore.roots p.id = .ok roots ∨
          ∃ q others, Latest (·.id = p.id) history q others ∧ q.name ≠ name ∧
            c.projectStore.roots p.id = .ok others)) ∧
    (∀ forests, forests.Perm c.forests → ∀ n b,
      (c.inOrder forests).projectStore.component n = .ok (some b) →
      ∃ p roots, Latest (·.id = p.id) history p roots ∧ b ∈ preOrder roots ∧
        ((∃ name q, c.projectStore.project name = .ok (some q) ∧
            c.projectStore.roots q.id = .ok roots) ∨
          ∃ q others, Latest (·.name = p.name) history q others ∧ q.id ≠ p.id)) ∧
    ((∀ p roots q others, .project p roots ∈ history → .project q others ∈ history →
      (p.name = q.name ↔ p.id = q.id)) → Consistent history) := by
  have own : ∀ name p, (ofHistory history).projectStore.project name = .ok (some p) →
      ∃ roots, Latest (·.name = name) history p roots := fun _ _ => project_ofHistory.mp
  refine ⟨?_, ?_, fun together => ⟨?_, ?_⟩⟩
  · intro name p found
    obtain ⟨roots, latest⟩ := own name p found
    exact ⟨roots, latest, own_or_shared latest⟩
  · intro forests same n b found
    obtain ⟨p, roots, latest, inside⟩ := exists_latest_of_component same found
    exact ⟨p, roots, latest, inside, current_or_left latest⟩
  · intro name p roots _ latest
    -- Only a project of the same number and another name could have replaced the forest.
    rcases own_or_shared latest with given | ⟨q, others, sameNumber, otherName, -⟩
    · exact given
    · have sameName := (together q others p roots sameNumber.mem latest.mem).mpr sameNumber.holds
      exact absurd (sameName.trans latest.holds) otherName
  · intro forests same n b found
    obtain ⟨p, roots, latest, inside⟩ := exists_latest_of_component same found
    rcases current_or_left latest with ⟨name, q, known, given⟩ | ⟨q, others, sameName, otherNumber⟩
    · exact ⟨name, q, roots, known, given, inside⟩
    · have sameNumber := (together q others p roots sameName.mem latest.mem).mp sameName.holds
      exact absurd sameNumber otherNumber

def numbered (number : UInt64) (name : String) : Project := ⟨number, name, { url := "file:///drops" }⟩

def sharedNumber : List Change :=
  [.project (numbered 1 "Payments") [leaf "Site" "site.sh"],
    .project (numbered 1 "Billing") [leaf "Ledger" "ledger.sh"]]

def movedName : List Change :=
  [.project (numbered 1 "Payments") [leaf "Site" "site.sh"],
    .project (numbered 2 "Payments") [leaf "API" "api.sh"]]

/-- `Payments` gets the forest of `Billing` in one history, and `Site` is found in the other one though
no project has it. -/
theorem inconsistent_histories : ¬ Consistent sharedNumber ∧ ¬ Consistent movedName := by
  constructor
  · intro consistent
    have latest : Latest (·.name = "Payments") sharedNumber (numbered 1 "Payments")
        [leaf "Site" "site.sh"] :=
      ⟨[], [.project (numbered 1 "Billing") [leaf "Ledger" "ledger.sh"]], rfl, rfl,
        by simp [numbered]⟩
    have own := consistent.own "Payments" (numbered 1 "Payments") _ rfl latest
    exact absurd own (by decide)
  · intro consistent
    obtain ⟨name, p, roots, found, given, inside⟩ := consistent.current _ (.refl _) "Site"
      (leaf "Site" "site.sh") (by rfl)
    have only : (ofHistory movedName).projects = [("Payments", numbered 2 "Payments")] := rfl
    have known := (lookup_eq_some_iff_mem (registers_projects.nodup_keys movedName) name p).mp
      (Except.ok.inj found)
    rw [only, List.mem_singleton] at known
    cases known
    cases given
    exact absurd inside (by decide)

end DeployPlan.Catalog
