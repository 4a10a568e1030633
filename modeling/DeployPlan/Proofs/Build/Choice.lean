import Mathlib.Data.List.Basic
import DeployPlan.Build.Resolver

/-!
Choices. A label has to name one definition, a locator stands for the first build that bears it, and of
several artifacts the drop is taken. Each choice is described by what was there to choose from.
-/

namespace DeployPlan

def FirstWith {α : Type} (p : α → Prop) (xs : List α) (x : α) : Prop :=
  ∃ before after, xs = before ++ x :: after ∧ p x ∧ ∀ y ∈ before, ¬ p y

theorem find?_eq_some_iff_firstWith {α : Type} {p : α → Prop} {test : α → Bool}
    (same : ∀ x, test x = true ↔ p x) {xs : List α} {x : α} :
    xs.find? test = some x ↔ FirstWith p xs x := by
  rw [List.find?_eq_some_iff_append]
  constructor
  · rintro ⟨holds, before, after, split, others⟩
    refine ⟨before, after, split, (same x).mp holds, ?_⟩
    intro y member bears
    have refuted := others y member
    rw [(same y).mpr bears] at refuted
    cases refuted
  · rintro ⟨before, after, split, holds, others⟩
    refine ⟨(same x).mpr holds, before, after, split, ?_⟩
    intro y member
    cases outcome : test y with
    | false => rfl
    | true => exact absurd ((same y).mp outcome) (others y member)

theorem find?_eq_none_iff_of {α : Type} {p : α → Prop} {test : α → Bool}
    (same : ∀ x, test x = true ↔ p x) {xs : List α} :
    xs.find? test = none ↔ ∀ x ∈ xs, ¬ p x := by
  rw [List.find?_eq_none]
  constructor
  · intro none x member holds
    exact none x member ((same x).mpr holds)
  · intro none x member holds
    exact none x member ((same x).mp holds)

theorem FirstWith.unique {α : Type} {p : α → Prop} {xs : List α} {x y : α}
    (one : FirstWith p xs x) (other : FirstWith p xs y) : x = y := by
  classical
  have test : ∀ z, decide (p z) = true ↔ p z := fun z => decide_eq_true_iff
  rw [← find?_eq_some_iff_firstWith test] at one other
  exact Option.some.inj (one.symm.trans other)

theorem FirstWith.holds {α : Type} {p : α → Prop} {xs : List α} {x : α} (first : FirstWith p xs x) :
    x ∈ xs ∧ p x := by
  obtain ⟨before, after, rfl, holds, -⟩ := first
  exact ⟨List.mem_append_right before List.mem_cons_self, holds⟩

theorem FirstWith.of_append {α : Type} {p : α → Prop} {xs ys : List α} {x : α}
    (first : FirstWith p (xs ++ ys) x) :
    FirstWith p xs x ∨ (∀ y ∈ xs, ¬ p y) ∧ FirstWith p ys x := by
  obtain ⟨before, after, split, holds, others⟩ := first
  -- The split of the whole list lies in one part or the other.
  rcases List.append_eq_append_iff.mp split with ⟨rest, rfl, rfl⟩ | ⟨rest, rfl, tail⟩
  · right
    constructor
    · intro y member
      exact others y (List.mem_append_left rest member)
    · refine ⟨rest, after, rfl, holds, ?_⟩
      intro y member
      exact others y (List.mem_append_right xs member)
  · cases rest with
    | nil =>
      right
      rw [List.append_nil]
      exact ⟨others, [], after, tail.symm, holds, fun y member => absurd member List.not_mem_nil⟩
    | cons head rest =>
      left
      cases tail
      exact ⟨before, rest, rfl, holds, others⟩

/-! Definitions -/

def definitionsNamed (project name : String) (definitions : List BuildDefinition) :
    List BuildDefinition :=
  definitions.filter fun d => d.name = name ∧ d.project = project

inductive DefinitionChoice (label project name : String) (definitions : List BuildDefinition) :
    Except Failure BuildDefinition → Prop
  | none (absent : definitionsNamed project name definitions = []) :
      DefinitionChoice label project name definitions
        (.error (.artifactNotFound (.definition name project)))
  | several (many : 1 < (definitionsNamed project name definitions).length) :
      DefinitionChoice label project name definitions
        (.error (.ambiguousDefinition label (definitionsNamed project name definitions).length))
  | one {d : BuildDefinition} (only : definitionsNamed project name definitions = [d]) :
      DefinitionChoice label project name definitions (.ok d)

theorem definitionChoice_iff {label project name : String} (definitions : List BuildDefinition)
    (answer : Except Failure BuildDefinition) :
    DefinitionChoice label project name definitions answer ↔
      selectDefinition label project name definitions = answer := by
  have named : (definitions.filter fun d => d.name == name && d.project == project) =
      definitionsNamed project name definitions := by
    refine List.filter_congr fun d _ => ?_
    rw [Bool.decide_and]
    rfl
  rw [selectDefinition, named]
  constructor
  · intro choice
    cases choice with
    | none absent => rw [absent]
    | one only => rw [only]
    | several many =>
      rcases split : definitionsNamed project name definitions with _ | ⟨d, _ | ⟨e, rest⟩⟩
      · rw [split] at many
        cases many
      · rw [split] at many
        exact absurd many (Nat.lt_irrefl 1)
      · rfl
  · rintro rfl
    rcases split : definitionsNamed project name definitions with _ | ⟨d, _ | ⟨e, rest⟩⟩
    · exact .none split
    · exact .one split
    · have many : 1 < (definitionsNamed project name definitions).length := by
        rw [split]
        simp
      have choice : DefinitionChoice label project name definitions _ := .several many
      rw [split] at choice
      exact choice

/-! Builds -/

/-- A locator stands for builds by their address, their uri or their number. -/
def Build.Bears (b : Build) (locator : String) : Prop :=
  b.url = locator ∨ b.uri = locator ∨ b.number = locator

theorem Build.isAt_iff {b : Build} {locator : String} : b.isAt locator = true ↔ b.Bears locator := by
  simp [isAt, Bears, or_assoc]

inductive BuildChoice (label locator : String) (builds : List Build) : Except Failure Build → Prop
  | none (absent : ∀ b ∈ builds, ¬ b.Bears locator) :
      BuildChoice label locator builds (.error (.artifactNotFound (.build locator label)))
  | first {b : Build} (first : FirstWith (·.Bears locator) builds b) :
      BuildChoice label locator builds (.ok b)

theorem buildChoice_iff {label locator : String} (builds : List Build)
    (answer : Except Failure Build) :
    BuildChoice label locator builds answer ↔ selectBuild label locator builds = answer := by
  have bears : ∀ b : Build, b.isAt locator = true ↔ b.Bears locator := fun b => Build.isAt_iff
  rw [selectBuild]
  constructor
  · intro choice
    cases choice with
    | none absent => rw [(find?_eq_none_iff_of bears).mpr absent]
    | first first => rw [(find?_eq_some_iff_firstWith bears).mpr first]
  · rintro rfl
    cases found : builds.find? (·.isAt locator) with
    | none => exact .none ((find?_eq_none_iff_of bears).mp found)
    | some b => exact .first ((find?_eq_some_iff_firstWith bears).mp found)

/-! Artifacts -/

/-- An artifact is the drop by its name, in letters of either case. -/
def BuildArtifact.IsDrop (x : BuildArtifact) : Prop :=
  Text.lowerCase x.name = "drop"

theorem BuildArtifact.isDrop_iff {x : BuildArtifact} :
    Text.sameIgnoringCase x.name preferredArtifact = true ↔ x.IsDrop := by
  have lower : Text.lowerCase preferredArtifact = "drop" := by decide
  rw [Text.sameIgnoringCase, lower, IsDrop, beq_iff_eq]

open Classical in
/-- The first drop where there are several artifacts and one of them is a drop, else the first. -/
def Preferred (artifacts : List BuildArtifact) (x : BuildArtifact) : Prop :=
  if 1 < artifacts.length ∧ ∃ y ∈ artifacts, y.IsDrop then FirstWith (·.IsDrop) artifacts x
  else artifacts.head? = some x

theorem preferred_iff {artifacts : List BuildArtifact} {x : BuildArtifact} :
    Preferred artifacts x ↔ selectArtifact? artifacts = some x := by
  have drop : ∀ y : BuildArtifact, Text.sameIgnoringCase y.name preferredArtifact = true ↔ y.IsDrop :=
    fun y => BuildArtifact.isDrop_iff
  rw [Preferred, selectArtifact?]
  by_cases several : artifacts.length > 1
  · rw [if_pos several]
    cases found : artifacts.find? fun y => Text.sameIgnoringCase y.name preferredArtifact with
    | none =>
      have plain : ¬ (1 < artifacts.length ∧ ∃ y ∈ artifacts, y.IsDrop) := by
        rintro ⟨-, y, member, isDrop⟩
        exact (find?_eq_none_iff_of drop).mp found y member isDrop
      rw [if_neg plain]
      rfl
    | some y =>
      have first := (find?_eq_some_iff_firstWith drop).mp found
      have dropped : 1 < artifacts.length ∧ ∃ z ∈ artifacts, z.IsDrop :=
        ⟨several, y, List.mem_of_find?_eq_some found, by
          obtain ⟨_, _, _, isDrop, _⟩ := first
          exact isDrop⟩
      rw [if_pos dropped]
      constructor
      · intro other
        rw [other.unique first]
        rfl
      · intro same
        cases same
        exact first
  · rw [if_neg several, if_neg fun both => several both.1]
    rfl

inductive ArtifactChoice (build : Build) (artifacts : List BuildArtifact) :
    Except Failure BuildArtifact → Prop
  | none (absent : artifacts = []) :
      ArtifactChoice build artifacts (.error (.artifactNotFound (.artifacts build.number)))
  | preferred {x : BuildArtifact} (preferred : Preferred artifacts x) :
      ArtifactChoice build artifacts (.ok x)

theorem artifactChoice_iff {build : Build} (artifacts : List BuildArtifact)
    (answer : Except Failure BuildArtifact) :
    ArtifactChoice build artifacts answer ↔ selectArtifact build artifacts = answer := by
  rw [selectArtifact]
  constructor
  · intro choice
    cases choice with
    | none absent =>
      subst absent
      rfl
    | preferred preferred => rw [preferred_iff.mp preferred]
  · rintro rfl
    cases found : selectArtifact? artifacts with
    | some x => exact .preferred (preferred_iff.mpr found)
    | none =>
      have absent : artifacts.head? = none := by
        rw [selectArtifact?, Option.or_eq_none_iff] at found
        exact found.2
      exact .none (List.head?_eq_none_iff.mp absent)

end DeployPlan
