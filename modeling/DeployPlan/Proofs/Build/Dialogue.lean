import Mathlib
import DeployPlan.Build.Scripted
import DeployPlan.Proofs.Build.Consultation

/-!
The dialogue with a build system when a reference is resolved. Settings and label are read before
anything is asked; then there are three questions, each put with what the one before it has found. The
first failure of the service, or the first choice that cannot be made, ends the dialogue.
-/

namespace DeployPlan

variable {σ α β : Type}

namespace BuildService

inductive Question where
  | definitions (url : Url) (scopes : List String) (filter : Option NameFilter)
  | builds (url : Url) (definitions : List BuildDefinition)
  | artifacts (url : Url) (project : String) (build : Build)

end BuildService

open BuildService (Question)

def Call.noted (question : Question) (call : Call σ α) : Call (σ × List Question) α := fun s =>
  let reply := call s.1
  ⟨reply.duration, ⟨reply.outcome.result, (reply.outcome.state, s.2 ++ [question]),
    reply.outcome.events⟩⟩

def BuildService.logged (service : BuildService σ) : BuildService (σ × List Question) where
  definitions url scopes filter :=
    (service.definitions url scopes filter).noted (.definitions url scopes filter)
  builds url definitions := (service.builds url definitions).noted (.builds url definitions)
  artifacts url project build :=
    (service.artifacts url project build).noted (.artifacts url project build)

/-- The questions of a dialogue, its result, and the state it leaves the service in. -/
inductive Dialogue (service : BuildService σ) (a : ArtifactSettings) (ref : BuildReference) (s : σ) :
    List Question → Except Failure BuildDetail → σ → Prop
  | refused {flaw : Flaw} (refused : Refused a ref.label flaw) :
      Dialogue service a ref s [] (.error (.invalid flaw)) s
  | noDefinition (i : Inquiry a ref.label) {e : Failure} {t : σ}
      (first : i.FindsDefinition service s (.error e) t) :
      Dialogue service a ref s [.definitions i.url a.subPathList i.filter] (.error e) t
  | noBuild (i : Inquiry a ref.label) {d : BuildDefinition} {e : Failure} {t u : σ}
      (first : i.FindsDefinition service s (.ok d) t)
      (second : i.FindsBuild service ref.locator d t (.error e) u) :
      Dialogue service a ref s [.definitions i.url a.subPathList i.filter, .builds i.url [d]]
        (.error e) u
  | noArtifact (i : Inquiry a ref.label) {d : BuildDefinition} {b : Build} {e : Failure} {t u v : σ}
      (first : i.FindsDefinition service s (.ok d) t)
      (second : i.FindsBuild service ref.locator d t (.ok b) u)
      (third : i.FindsArtifact service d b u (.error e) v) :
      Dialogue service a ref s [.definitions i.url a.subPathList i.filter, .builds i.url [d],
        .artifacts i.url d.project b] (.error e) v
  | resolved (f : Resolution service a ref s) :
      Dialogue service a ref s [.definitions f.url a.subPathList f.filter,
        .builds f.url [f.definition], .artifacts f.url f.definition.project f.build]
        (.ok {
          buildId := f.build.id
          buildNumber := f.build.number
          dropLocation := f.artifact.downloadUrl
          project := if f.build.project = "" then f.definition.project else f.build.project
          uri := f.build.uri }) f.afterThird

theorem Consulted.noted {call : Call σ α} {Choice : α → Except Failure β → Prop} {s t : σ}
    {r : Except Failure β} (question : Question) (log : List Question)
    (consulted : Consulted call Choice s r t) :
    Consulted (call.noted question) Choice (s, log) r (t, log ++ [question]) := by
  cases consulted with
  | failed failed =>
    have noted : (call.noted question (s, log)).outcome.result = _ := failed
    exact .failed noted
  | answered answered chosen =>
    have noted : (call.noted question (s, log)).outcome.result = _ := answered
    exact .answered noted chosen

section Logged

variable {a : ArtifactSettings} {label : String} {i : Inquiry a label} {service : BuildService σ}
  {s t : σ} (log : List Question)

theorem Inquiry.FindsDefinition.logged {r : Except Failure BuildDefinition}
    (found : i.FindsDefinition service s r t) :
    i.FindsDefinition service.logged (s, log) r
      (t, log ++ [.definitions i.url a.subPathList i.filter]) :=
  Consulted.noted _ log found

theorem Inquiry.FindsBuild.logged {locator : String} {d : BuildDefinition} {r : Except Failure Build}
    (found : i.FindsBuild service locator d s r t) :
    i.FindsBuild service.logged locator d (s, log) r (t, log ++ [.builds i.url [d]]) :=
  Consulted.noted _ log found

theorem Inquiry.FindsArtifact.logged {d : BuildDefinition} {b : Build}
    {r : Except Failure BuildArtifact} (found : i.FindsArtifact service d b s r t) :
    i.FindsArtifact service.logged d b (s, log) r (t, log ++ [.artifacts i.url d.project b]) :=
  Consulted.noted _ log found

def Resolution.logged {ref : BuildReference} (f : Resolution service a ref s) :
    Resolution service.logged a ref (s, log) where
  toInquiry := f.toInquiry
  definition := f.definition
  build := f.build
  artifact := f.artifact
  afterFirst := _
  afterSecond := _
  afterThird := _
  definition_found := f.definition_found.logged log
  build_found := f.build_found.logged _
  artifact_found := f.artifact_found.logged _

end Logged

theorem Inquiry.findDefinition_ends {a : ArtifactSettings} {label : String} (i : Inquiry a label)
    {service : BuildService σ} {s t : σ} {r : Except Failure BuildDefinition}
    (found : i.FindsDefinition service s r t) :
    ((⟨service, none⟩ : Resolver σ).findDefinition ⟨none, none⟩ i.url a label).Ends s r t :=
  .ofExcept_ok i.labelled <| .ofExcept_ok i.filtered <|
    .consult definitionChoice_iff found

theorem Build.detail_eq (b : Build) (d : BuildDefinition) (x : BuildArtifact) :
    b.detail d x = {
      buildId := b.id
      buildNumber := b.number
      dropLocation := x.downloadUrl
      project := if b.project = "" then d.project else b.project
      uri := b.uri } := by
  simp only [detail, String.isEmpty_iff]

namespace Dialogue

variable {service : BuildService σ} {a : ArtifactSettings} {ref : BuildReference} {s t : σ}
  {asked : List Question} {r : Except Failure BuildDetail}

theorem ends (dialogue : Dialogue service a ref s asked r t) :
    ((⟨service, none⟩ : Resolver σ).resolveRemote ⟨none, none⟩ a ref).Ends s r t := by
  cases dialogue with
  | refused refused =>
    cases refused with
    | address bad => exact .ofExcept_error _ bad s
    | label addressed bad =>
      exact .ofExcept_ok addressed (Act.Ends.bind_error (.ofExcept_error _ bad s))
    | filter addressed labelled bad =>
      exact .ofExcept_ok addressed
        (Act.Ends.bind_error (.ofExcept_ok labelled (.ofExcept_error _ bad s)))
  | noDefinition i first =>
    exact .ofExcept_ok i.addressed (i.findDefinition_ends first).bind_error
  | noBuild i first second =>
    refine .ofExcept_ok i.addressed ((i.findDefinition_ends first).bind ?_)
    exact .consult_error buildChoice_iff second
  | noArtifact i first second third =>
    refine .ofExcept_ok i.addressed ((i.findDefinition_ends first).bind ?_)
    refine .consult_ok buildChoice_iff second ?_
    exact .consult_error artifactChoice_iff third
  | resolved f =>
    refine .ofExcept_ok f.addressed ((f.findDefinition_ends f.definition_found).bind ?_)
    refine .consult_ok buildChoice_iff f.build_found ?_
    refine .consult_ok artifactChoice_iff f.artifact_found ?_
    rw [Build.detail_eq]
    exact .pure _ _

theorem logged (log : List Question) (dialogue : Dialogue service a ref s asked r t) :
    Dialogue service.logged a ref (s, log) asked r (t, log ++ asked) := by
  cases dialogue with
  | refused refused =>
    rw [List.append_nil]
    exact .refused refused
  | noDefinition i first => exact .noDefinition i (first.logged log)
  | noBuild i first second =>
    have both := Dialogue.noBuild i (first.logged log) (second.logged _)
    rw [List.append_assoc] at both
    exact both
  | noArtifact i first second third =>
    have all := Dialogue.noArtifact i (first.logged log) (second.logged _) (third.logged _)
    rw [List.append_assoc, List.append_assoc] at all
    exact all
  | resolved f =>
    have left : (f.logged log).afterThird = (f.afterThird, log ++ [
        .definitions f.url a.subPathList f.filter, .builds f.url [f.definition],
        .artifacts f.url f.definition.project f.build]) := by
      simp only [Resolution.logged, List.append_assoc, List.cons_append, List.nil_append]
    rw [← left]
    exact .resolved (f.logged log)

theorem exists_dialogue (service : BuildService σ) (a : ArtifactSettings) (ref : BuildReference)
    (s : σ) : ∃ asked r t, Dialogue service a ref s asked r t := by
  rcases refused_or_inquiry a ref.label with ⟨flaw, refused⟩ | ⟨⟨i⟩⟩
  · exact ⟨_, _, _, .refused refused⟩
  · obtain ⟨definition?, first⟩ := exists_consulted definitionChoice_iff
      (service.definitions i.url a.subPathList i.filter) s
    cases definition? with
    | error e => exact ⟨_, _, _, .noDefinition i first⟩
    | ok d =>
      obtain ⟨build?, second⟩ := exists_consulted buildChoice_iff (service.builds i.url [d])
        (service.definitions i.url a.subPathList i.filter s).outcome.state
      cases build? with
      | error e => exact ⟨_, _, _, .noBuild i first second⟩
      | ok b =>
        obtain ⟨artifact?, third⟩ := exists_consulted artifactChoice_iff
          (service.artifacts i.url d.project b) _
        cases artifact? with
        | error e => exact ⟨_, _, _, .noArtifact i first second third⟩
        | ok x => exact ⟨_, _, _, .resolved ⟨i, d, b, x, _, _, _, first, second, third⟩⟩

end Dialogue

theorem Act.Ends.timed {m : Act (Clocked σ) α} {s t : σ} {r : Except Failure α} (ends : m.Ends s r t) :
    (m.timed.run s).result = r ∧ (m.timed.run s).state = t :=
  ends ⟨0⟩

namespace Resolver

theorem resolve_of_dialogue {service : BuildService σ} {a : ArtifactSettings} {ref : BuildReference}
    {s t : σ} {asked : List Question} {r : Except Failure BuildDetail}
    (remote : a.source = .buildSystem) (dialogue : Dialogue service a ref s asked r t) :
    (((⟨service, none⟩ : Resolver σ).resolve a ref).run s).result = r ∧
      (((⟨service, none⟩ : Resolver σ).resolve a ref).run s).state = t := by
  obtain ⟨ended, left⟩ := dialogue.ends.timed
  rw [resolve_of_buildSystem _ remote, Act.result_bind, Act.state_bind]
  have patience : (⟨service, none⟩ : Resolver σ).patience none = ⟨none, none⟩ := rfl
  rw [patience, ended]
  cases r with
  | error e => exact ⟨rfl, left⟩
  | ok detail =>
    constructor
    · simp only [Except.bind, Act.result_bind, Act.result_report, Act.result_pure]
    · simp only [Act.state_bind, Act.result_report, Act.state_report, Act.state_pure]
      exact left

/-- Without a limit and without cancellation, a reference to a build system is resolved in such a
dialogue. -/
theorem resolve_dialogue (service : BuildService σ) {a : ArtifactSettings}
    (remote : a.source = .buildSystem) (ref : BuildReference) (s : σ) :
    let outcome := ((⟨service, none⟩ : Resolver σ).resolve a ref).run s
    let noted := ((⟨service.logged, none⟩ : Resolver (σ × List Question)).resolve a ref).run (s, [])
    ∃ asked, Dialogue service a ref s asked outcome.result outcome.state ∧
      noted.result = outcome.result ∧ noted.state = (outcome.state, asked) := by
  intro outcome noted
  obtain ⟨asked, r, t, dialogue⟩ := Dialogue.exists_dialogue service a ref s
  obtain ⟨ended, left⟩ := resolve_of_dialogue remote dialogue
  obtain ⟨noted_ended, noted_left⟩ := resolve_of_dialogue remote (dialogue.logged [])
  refine ⟨asked, ?_, ?_, ?_⟩
  · rw [ended, left]
    exact dialogue
  · rw [ended, noted_ended]
  · rw [left, noted_left, List.nil_append]

def published : ScriptedBuilds where
  script := {
    definitions := [⟨10, "CI", "Payments"⟩]
    builds := [{ id := some 981, number := "1.2", uri := "vstfs:981", definitionId := 10 }]
    artifacts := [("1.2", [⟨"logs", "https://tfs/logs"⟩, ⟨"DROP", "https://tfs/drop"⟩])] }

theorem resolve_dialogue_published :
    mainCollection.source = .buildSystem ∧
    ∃ asked t, asked.length = 3 ∧
      Dialogue ScriptedBuilds.service mainCollection ⟨"Payments; CI", "vstfs:981"⟩ published asked
        (.ok ⟨some 981, "1.2", "https://tfs/drop", "Payments", "vstfs:981"⟩) t := by
  obtain ⟨asked, dialogue, -, noted⟩ := resolve_dialogue ScriptedBuilds.service mainCollection_remote
    ⟨"Payments; CI", "vstfs:981"⟩ published
  have found : (((⟨ScriptedBuilds.service, none⟩ : Resolver ScriptedBuilds).resolve mainCollection
      ⟨"Payments; CI", "vstfs:981"⟩).run published).result =
        .ok ⟨some 981, "1.2", "https://tfs/drop", "Payments", "vstfs:981"⟩ := by decide +kernel
  have three : (((⟨ScriptedBuilds.service.logged, none⟩ : Resolver _).resolve mainCollection
      ⟨"Payments; CI", "vstfs:981"⟩).run (published, [])).state.2.length = 3 := by decide +kernel
  rw [found] at dialogue
  rw [noted] at three
  exact ⟨mainCollection_remote, asked, _, three, dialogue⟩

end Resolver

end DeployPlan
