import Mathlib
import DeployPlan.Build.Scripted
import DeployPlan.Proofs.Build.Consultation

/-!
What is offered and what is deployed. A candidate is made of one build of a list, and its locator is the
address of that build or, without one, its uri. A search with the same answers goes through the same
list, with the builds in it that are not offered, and takes the first one that bears the locator.
-/

namespace DeployPlan

variable {σ : Type}

structure Offer (service : BuildService σ) (a : ArtifactSettings) (label : String) (s : σ) extends
    Inquiry a label where
  definition : BuildDefinition
  builds : List Build
  afterFirst : σ
  definition_found : toInquiry.FindsDefinition service s (.ok definition) afterFirst
  builds_listed : (service.builds url [definition] afterFirst).outcome.result = .ok builds

theorem Resolution.exists_offer {service : BuildService σ} {a : ArtifactSettings}
    {ref : BuildReference} {s : σ} (found : Resolution service a ref s) :
    ∃ o : Offer service a ref.label s, o.definition = found.definition ∧
      FirstWith (·.Bears ref.locator) o.builds found.build := by
  obtain ⟨builds, listed, chosen, -⟩ := consulted_ok_iff.mp found.build_found
  refine ⟨⟨found.toInquiry, found.definition, builds, found.afterFirst, found.definition_found,
    listed⟩, rfl, ?_⟩
  cases chosen with
  | first first => exact first

theorem Resolver.exists_offer {r : Resolver σ} {a : ArtifactSettings} {label : String}
    {target : Environment} {s : σ} {offered : List BuildCandidate}
    (listed : ((r.candidates a label target).run s).result = .ok offered) :
    a.source = .buildSystem ∧
      ∃ o : Offer r.service a label s, offered = candidatesFor o.builds target := by
  unfold candidates at listed
  split at listed
  · rename_i remote
    obtain ⟨builds, t, first, reported⟩ := Act.gives_bind_iff.mp (Act.gives_of_result listed)
    obtain ⟨same, -⟩ := reported
    cases same
    obtain ⟨_, _, given⟩ := Act.gives_timed first
    obtain ⟨url, addressed, given⟩ := Act.gives_ofExcept_bind given
    obtain ⟨definition, u, found, given⟩ := Act.gives_bind_iff.mp given
    obtain ⟨i, rfl, definition_found⟩ := findDefinition_gives addressed found
    obtain ⟨builds_listed, -⟩ := Patience.await_gives given
    exact ⟨remote, ⟨i, definition, builds, u.state, definition_found, builds_listed⟩, rfl⟩
  · cases listed

/-- In both states the service lists the same definitions, and after them the same builds. -/
structure BuildService.SameAnswers (service : BuildService σ) (s t : σ) : Prop where
  definitions (url : Url) (scopes : List String) (filter : Option NameFilter) :
    (service.definitions url scopes filter s).outcome.result =
      (service.definitions url scopes filter t).outcome.result
  builds (url : Url) (scopes : List String) (filter : Option NameFilter) (ds : List BuildDefinition) :
    (service.builds url ds (service.definitions url scopes filter s).outcome.state).outcome.result =
      (service.builds url ds (service.definitions url scopes filter t).outcome.state).outcome.result

namespace Offer

variable {service : BuildService σ} {a : ArtifactSettings} {label : String} {s t : σ}

theorem builds_eq (same : service.SameAnswers s t) (o : Offer service a label s)
    (o' : Offer service a label t) : o.builds = o'.builds := by
  obtain ⟨i, d, builds, u, found, listed⟩ := o
  obtain ⟨i', d', builds', u', found', listed'⟩ := o'
  obtain rfl := i.unique i'
  obtain ⟨ds, answered, chosen, rfl⟩ := consulted_ok_iff.mp found
  obtain ⟨ds', answered', chosen', rfl⟩ := consulted_ok_iff.mp found'
  rw [same.definitions, answered'] at answered
  cases answered
  rw [definitionChoice_iff] at chosen chosen'
  cases chosen.symm.trans chosen'
  rw [same.builds, listed'] at listed
  cases listed
  rfl

end Offer

theorem mem_candidatesFor {builds : List Build} {target : Environment} {c : BuildCandidate} :
    c ∈ candidatesFor builds target ↔
      ∃ b ∈ builds, (target.requiresPinnedBuilds = true → b.keepForever = true) ∧ b.candidate = c := by
  have accepted : ∀ b : Build, (!target.requiresPinnedBuilds || b.keepForever) = true ↔
      (target.requiresPinnedBuilds = true → b.keepForever = true) := by
    intro b
    cases target.requiresPinnedBuilds <;> simp
  simp only [candidatesFor, List.mem_map, List.mem_filter, accepted, and_assoc]

theorem Build.bears_candidate (b : Build) : b.Bears b.candidate.locator := by
  unfold Bears candidate
  dsimp only
  split
  · exact Or.inr (Or.inl rfl)
  · exact Or.inl rfl

theorem exists_own {builds : List Build} {target : Environment} {c : BuildCandidate}
    (member : c ∈ candidatesFor builds target) :
    ∃ before own after, builds = before ++ own :: after ∧ own.candidate = c ∧
      (target.requiresPinnedBuilds = true → own.keepForever = true) := by
  obtain ⟨own, listed, accepted, rfl⟩ := mem_candidatesFor.mp member
  obtain ⟨before, after, split⟩ := List.append_of_mem listed
  exact ⟨before, own, after, split, rfl, accepted⟩

theorem earlier_or_own {before after : List Build} {own selected : Build}
    (first : FirstWith (·.Bears own.candidate.locator) (before ++ own :: after) selected) :
    (selected ∈ before ∧ selected.Bears own.candidate.locator) ∨
      (∀ b ∈ before, ¬ b.Bears own.candidate.locator) ∧ selected = own := by
  rcases first.of_append with earlier | ⟨none, later⟩
  · exact Or.inl earlier.holds
  · have itself : FirstWith (·.Bears own.candidate.locator) (own :: after) own :=
      ⟨[], after, rfl, own.bears_candidate, fun b member => absurd member List.not_mem_nil⟩
    exact Or.inr ⟨none, later.unique itself⟩

theorem number_ne_of_earlier {before after : List Build} {own earlier : Build}
    (distinct : ((before ++ own :: after).map (·.number)).Nodup) (member : earlier ∈ before) :
    earlier.number ≠ own.number := by
  rw [List.map_append, List.nodup_append] at distinct
  exact distinct.2.2 _ (List.mem_map_of_mem member) _ (List.mem_map_of_mem List.mem_cons_self)

/-! A script that no call fails on -/

namespace ScriptedBuilds

variable {s : ScriptedBuilds}

theorem result_answer {α : Type} (calm : s.script.failures = []) (call : BuildCall)
    (a : BuildScript → α) : (answer call a s).outcome.result = .ok (a s.script) := by
  simp only [answer, calm, List.lookup_nil]

theorem sameAnswers {script : BuildScript} (calm : script.failures = [])
    (calls calls' : List BuildCall) : service.SameAnswers ⟨script, calls⟩ ⟨script, calls'⟩ where
  definitions url scopes filter := by
    have answered : ∀ calls,
        (service.definitions url scopes filter ⟨script, calls⟩).outcome.result = _ :=
      fun calls => result_answer calm _ _
    rw [answered, answered]
  builds url scopes filter ds := by
    have answered : ∀ calls, (service.builds url ds ⟨script, calls⟩).outcome.result = _ :=
      fun calls => result_answer calm _ _
    have noted : ∀ calls, (service.definitions url scopes filter ⟨script, calls⟩).outcome.state =
        ⟨script, calls ++ [.definitions url scopes (filter.map (·.text))]⟩ := fun _ => rfl
    rw [noted, noted, answered, answered]

theorem offered_sublist {a : ArtifactSettings} {label : String} (calm : s.script.failures = [])
    (o : Offer service a label s) : o.builds.Sublist s.script.builds := by
  obtain ⟨i, d, builds, u, found, listed⟩ := o
  obtain ⟨_, -, -, rfl⟩ := consulted_ok_iff.mp found
  have later :
      (service.definitions i.url a.subPathList i.filter s).outcome.state.script.failures = [] := calm
  simp only [service] at later listed
  rw [result_answer later] at listed
  cases listed
  exact List.filter_sublist

def offering (builds : List Build) : ScriptedBuilds where
  script := {
    definitions := [⟨10, "CI", "Payments"⟩]
    builds := builds
    artifacts := builds.map fun b => (b.number, [⟨"drop", "https://tfs/drop"⟩]) }

theorem offering_distinct {a : ArtifactSettings} {label : String} {builds : List Build}
    (distinct : (builds.map (·.number)).Nodup) (o : Offer service a label (offering builds)) :
    (o.builds.map (·.number)).Nodup := by
  have calm : (offering builds).script.failures = [] := rfl
  exact distinct.sublist ((offered_sublist calm o).map _)

end ScriptedBuilds

def liveEnvironment : Environment where
  id := 1
  name := "PROD"
  production := true

namespace Resolver

/-- The build of a candidate is deployed unless one that stands before it in the list bears the same
locator. -/
theorem offered_deployed (r : Resolver σ) {a : ArtifactSettings} {label : String}
    {target : Environment} {s t : σ} {offered : List BuildCandidate} {c : BuildCandidate}
    {detail : BuildDetail} (same : r.service.SameAnswers s t)
    (distinct : ∀ o : Offer r.service a label s, (o.builds.map (·.number)).Nodup)
    (listed : ((r.candidates a label target).run s).result = .ok offered) (member : c ∈ offered)
    (resolved : ((r.resolve a ⟨label, c.locator⟩).run t).result = .ok detail) :
    ∃ (o : Offer r.service a label s) (before after : List Build) (own selected : Build),
      o.builds = before ++ own :: after ∧ own.candidate = c ∧
      selected ∈ o.builds ∧ selected.Bears c.locator ∧
      detail.buildId = selected.id ∧ detail.buildNumber = selected.number ∧
      detail.uri = selected.uri ∧
      ((∀ b ∈ before, ¬ b.Bears c.locator) → detail.buildNumber = c.buildNumber) ∧
      (target.requiresPinnedBuilds = true →
        (∀ b ∈ before, b.Bears c.locator → b.keepForever = true) → selected.keepForever = true) ∧
      (c.locator ≠ "" → FirstWith (·.Bears c.locator) o.builds selected ∧
        (detail.buildNumber = c.buildNumber → ∀ b ∈ before, ¬ b.Bears c.locator)) := by
  obtain ⟨remote, o, rfl⟩ := exists_offer listed
  obtain ⟨before, own, after, split, rfl, accepted⟩ := exists_own member
  obtain ⟨found, rfl⟩ := exists_resolution remote resolved
  -- The search lists the builds once more, all of them and not only those on offer.
  obtain ⟨again, -, first⟩ := found.exists_offer
  rw [← o.builds_eq same again] at first
  have bears := first.holds
  have numbered := distinct o
  rw [split] at first numbered
  have place := earlier_or_own first
  refine ⟨o, before, after, own, found.build, split, rfl, bears.1, bears.2, rfl, rfl, rfl, ?_, ?_, ?_⟩
  · intro none
    rcases place with ⟨earlier, taken⟩ | ⟨-, is_own⟩
    · exact absurd taken (none _ earlier)
    · exact congrArg Build.number is_own
  · intro pinned kept
    rcases place with ⟨earlier, taken⟩ | ⟨-, is_own⟩
    · exact kept _ earlier taken
    · rw [is_own]
      exact accepted pinned
  · intro _
    constructor
    · rw [split]
      exact first
    · intro equal
      rcases place with ⟨earlier, -⟩ | ⟨none, -⟩
      · exact absurd equal (number_ne_of_earlier numbered earlier)
      · exact none

def releases : List Build := [
  { id := some 1, number := "1.0", url := "https://tfs/builds/1", definitionId := 10 },
  { id := some 2, number := "2.0", keepForever := true, url := "https://tfs/builds/2",
    definitionId := 10 }]

theorem offered_deployed_releases :
    ∃ o : Offer ScriptedBuilds.service mainCollection "Payments; CI" (.offering releases),
      ∃ selected ∈ o.builds, selected.number = "2.0" ∧ selected.keepForever = true := by
  let later : ScriptedBuilds := ⟨(ScriptedBuilds.offering releases).script, [default, default]⟩
  have calm : (ScriptedBuilds.offering releases).script.failures = [] := rfl
  have same : ScriptedBuilds.service.SameAnswers (.offering releases) later :=
    ScriptedBuilds.sameAnswers calm _ _
  have distinct : (releases.map (·.number)).Nodup := by decide
  have listed : (((⟨ScriptedBuilds.service, none⟩ : Resolver ScriptedBuilds).candidates mainCollection
      "Payments; CI" liveEnvironment).run (.offering releases)).result =
        .ok [⟨"2.0 [PINNED]", "2.0", "https://tfs/builds/2", true⟩] := by decide +kernel
  have resolved : (((⟨ScriptedBuilds.service, none⟩ : Resolver ScriptedBuilds).resolve mainCollection
      ⟨"Payments; CI", "https://tfs/builds/2"⟩).run later).result =
        .ok ⟨some 2, "2.0", "https://tfs/drop", "Payments", ""⟩ := by decide +kernel
  obtain ⟨o, before, after, own, selected, -, -, found, -, -, number, -, -, kept, exact_place⟩ :=
    offered_deployed ⟨ScriptedBuilds.service, none⟩ same
      (fun o => ScriptedBuilds.offering_distinct distinct o) listed List.mem_cons_self resolved
  have none := (exact_place (by decide)).2 rfl
  exact ⟨o, selected, found, number.symm, kept rfl fun b member bears => absurd bears (none b member)⟩

def sameAddress : List Build := [
  { id := some 1, number := "1.0", url := "https://tfs/builds/1", definitionId := 10 },
  { id := some 2, number := "2.0", keepForever := true, url := "https://tfs/builds/1",
    definitionId := 10 }]

/-- The second one is offered to production, and the first one is deployed. -/
theorem other_than_offered_deployed :
    liveEnvironment.requiresPinnedBuilds = true ∧
    (∀ o : Offer ScriptedBuilds.service mainCollection "Payments; CI" (.offering sameAddress),
      (o.builds.map (·.number)).Nodup) ∧
    (((⟨ScriptedBuilds.service, none⟩ : Resolver ScriptedBuilds).candidates mainCollection
      "Payments; CI" liveEnvironment).run (.offering sameAddress)).result =
        .ok [⟨"2.0 [PINNED]", "2.0", "https://tfs/builds/1", true⟩] ∧
    (((⟨ScriptedBuilds.service, none⟩ : Resolver ScriptedBuilds).resolve mainCollection
      ⟨"Payments; CI", "https://tfs/builds/1"⟩).run (.offering sameAddress)).result =
        .ok ⟨some 1, "1.0", "https://tfs/drop", "Payments", ""⟩ ∧
    ∀ b ∈ sameAddress, b.number = "1.0" → b.keepForever = false := by
  have distinct : (sameAddress.map (·.number)).Nodup := by decide
  refine ⟨rfl, fun o => ScriptedBuilds.offering_distinct distinct o, ?_, ?_, ?_⟩
  · decide +kernel
  · decide +kernel
  · decide

end Resolver

end DeployPlan
