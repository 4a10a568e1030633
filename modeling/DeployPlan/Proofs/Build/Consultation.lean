import DeployPlan.Proofs.Build.Choice
import DeployPlan.Proofs.Steps

/-!
Consulting a build system. A search asks a question, chooses from the answer, and goes on to the next
question with what it has chosen. A search for a build asks up to three questions, the listing of the
builds on offer asks the first two of them.
-/

namespace DeployPlan

variable {σ α β γ : Type}

/-- A call is made, and something is chosen from its answer. -/
inductive Consulted (call : Call σ α) (Choice : α → Except Failure β → Prop) (s : σ) :
    Except Failure β → σ → Prop
  | failed {e : Failure} (failed : (call s).outcome.result = .error e) :
      Consulted call Choice s (.error e) (call s).outcome.state
  | answered {a : α} {r : Except Failure β} (answered : (call s).outcome.result = .ok a)
      (chosen : Choice a r) : Consulted call Choice s r (call s).outcome.state

theorem exists_consulted {Choice : α → Except Failure β → Prop} {choose : α → Except Failure β}
    (exact : ∀ a r, Choice a r ↔ choose a = r) (call : Call σ α) (s : σ) :
    ∃ r, Consulted call Choice s r (call s).outcome.state := by
  cases answer : (call s).outcome.result with
  | error e => exact ⟨_, .failed answer⟩
  | ok a => exact ⟨_, .answered answer ((exact a _).mpr rfl)⟩

theorem consulted_ok_iff {call : Call σ α} {Choice : α → Except Failure β → Prop} {s t : σ} {b : β} :
    Consulted call Choice s (.ok b) t ↔
      ∃ a, (call s).outcome.result = .ok a ∧ Choice a (.ok b) ∧ (call s).outcome.state = t := by
  constructor
  · intro consulted
    cases consulted with
    | answered answered chosen => exact ⟨_, answered, chosen, rfl⟩
  · rintro ⟨a, answered, chosen, rfl⟩
    exact .answered answered chosen

/-! Work that nobody gives up -/

/-- Begun in the state `s`, whatever the clock shows, work has this result and leaves the state `t`. -/
def Act.Ends (m : Act (Clocked σ) α) (s : σ) (r : Except Failure α) (t : σ) : Prop :=
  ∀ now, (m.run ⟨s, now⟩).result = r ∧ (m.run ⟨s, now⟩).state.state = t

namespace Act.Ends

variable {s t u : σ}

theorem pure (a : α) (s : σ) : (Pure.pure a : Act (Clocked σ) α).Ends s (.ok a) s := by
  intro now
  exact ⟨rfl, rfl⟩

theorem ofExcept (r : Except Failure α) (s : σ) : (Act.ofExcept r).Ends s r s := by
  intro now
  rw [result_ofExcept, state_ofExcept]
  exact ⟨rfl, rfl⟩

theorem bind {m : Act (Clocked σ) α} {f : α → Act (Clocked σ) β} {a : α} {r : Except Failure β}
    (first : m.Ends s (.ok a) t) (next : (f a).Ends t r u) : (m >>= f).Ends s r u := by
  intro now
  obtain ⟨answered, after⟩ := first now
  have rest := next (m.run ⟨s, now⟩).state.now
  rw [← after] at rest
  rw [result_bind, state_bind, answered]
  exact rest

theorem bind_error {m : Act (Clocked σ) α} {f : α → Act (Clocked σ) β} {e : Failure}
    (first : m.Ends s (.error e) t) : (m >>= f).Ends s (.error e) t := by
  intro now
  obtain ⟨failed, after⟩ := first now
  rw [result_bind, state_bind, failed]
  exact ⟨rfl, after⟩

theorem ofExcept_ok {known : Except Failure α} {a : α} {f : α → Act (Clocked σ) β}
    {r : Except Failure β} (here : known = .ok a) (next : (f a).Ends s r t) :
    (Act.ofExcept known >>= f).Ends s r t := by
  rw [here]
  exact (ofExcept _ s).bind next

theorem ofExcept_error {known : Except Failure α} {e : Failure} (f : α → Act (Clocked σ) β)
    (here : known = .error e) (s : σ) : (Act.ofExcept known >>= f).Ends s (.error e) s := by
  rw [here]
  exact (ofExcept _ s).bind_error

theorem await (call : Call σ α) (s : σ) :
    ((⟨none, none⟩ : Patience).await call).Ends s (call s).outcome.result (call s).outcome.state := by
  intro now
  exact ⟨rfl, rfl⟩

variable {call : Call σ α} {Choice : α → Except Failure β → Prop} {choose : α → Except Failure β}
  (exact : ∀ a r, Choice a r ↔ choose a = r)

include exact

theorem ofChoice {a : α} {r : Except Failure β} (chosen : Choice a r) (s : σ) :
    (Act.ofExcept (choose a)).Ends s r s := by
  rw [(exact a r).mp chosen]
  exact ofExcept r s

theorem consult {r : Except Failure β} (consulted : Consulted call Choice s r t) :
    ((⟨none, none⟩ : Patience).await call >>= fun a => Act.ofExcept (choose a)).Ends s r t := by
  have waited := await call s
  cases consulted with
  | failed failed =>
    rw [failed] at waited
    exact waited.bind_error
  | answered answered chosen =>
    rw [answered] at waited
    exact waited.bind (ofChoice exact chosen _)

theorem consult_ok {b : β} {next : β → Act (Clocked σ) γ} {r : Except Failure γ}
    (consulted : Consulted call Choice s (.ok b) t) (rest : (next b).Ends t r u) :
    ((⟨none, none⟩ : Patience).await call >>= fun a =>
      Act.ofExcept (choose a) >>= next).Ends s r u := by
  have waited := await call s
  cases consulted with
  | answered answered chosen =>
    rw [answered] at waited
    exact waited.bind ((ofChoice exact chosen _).bind rest)

theorem consult_error {e : Failure} {next : β → Act (Clocked σ) γ}
    (consulted : Consulted call Choice s (.error e) t) :
    ((⟨none, none⟩ : Patience).await call >>= fun a =>
      Act.ofExcept (choose a) >>= next).Ends s (.error e) t := by
  have waited := await call s
  cases consulted with
  | failed failed =>
    rw [failed] at waited
    exact waited.bind_error
  | answered answered chosen =>
    rw [answered] at waited
    exact waited.bind (ofChoice exact chosen _).bind_error

end Act.Ends

/-! What is asked for a label and a locator -/

structure Inquiry (a : ArtifactSettings) (label : String) where
  url : Url
  project : String
  name : String
  filter : Option NameFilter
  addressed : a.address = .ok url
  labelled : parseLabel label = .ok (project, name)
  filtered : a.filter = .ok filter

/-- The first of the three that cannot be read. -/
inductive Refused (a : ArtifactSettings) (label : String) : Flaw → Prop
  | address {flaw : Flaw} (bad : a.address = .error (.invalid flaw)) : Refused a label flaw
  | label {flaw : Flaw} {url : Url} (addressed : a.address = .ok url)
      (bad : parseLabel label = .error (.invalid flaw)) : Refused a label flaw
  | filter {flaw : Flaw} {url : Url} {names : String × String} (addressed : a.address = .ok url)
      (labelled : parseLabel label = .ok names) (bad : a.filter = .error (.invalid flaw)) :
      Refused a label flaw

theorem address_ok_or_invalid (a : ArtifactSettings) :
    (∃ url, a.address = .ok url) ∨ ∃ flaw, a.address = .error (.invalid flaw) := by
  rw [ArtifactSettings.address]
  split
  · exact Or.inl ⟨_, rfl⟩
  · exact Or.inr ⟨_, rfl⟩

theorem parseLabel_ok_or_invalid (label : String) :
    (∃ names, parseLabel label = .ok names) ∨ ∃ flaw, parseLabel label = .error (.invalid flaw) := by
  rw [parseLabel]
  split
  · exact Or.inr ⟨_, rfl⟩
  · dsimp only
    split
    · exact Or.inr ⟨_, rfl⟩
    · exact Or.inl ⟨_, rfl⟩

theorem filter_ok_or_invalid (a : ArtifactSettings) :
    (∃ filter, a.filter = .ok filter) ∨ ∃ flaw, a.filter = .error (.invalid flaw) := by
  rw [ArtifactSettings.filter]
  split
  · exact Or.inl ⟨_, rfl⟩
  · split
    · exact Or.inl ⟨_, rfl⟩
    · split
      · exact Or.inl ⟨_, rfl⟩
      · exact Or.inr ⟨_, rfl⟩

theorem refused_or_inquiry (a : ArtifactSettings) (label : String) :
    (∃ flaw, Refused a label flaw) ∨ Nonempty (Inquiry a label) := by
  rcases address_ok_or_invalid a with ⟨url, addressed⟩ | ⟨flaw, bad⟩
  · rcases parseLabel_ok_or_invalid label with ⟨⟨project, name⟩, labelled⟩ | ⟨flaw, bad⟩
    · rcases filter_ok_or_invalid a with ⟨filter, filtered⟩ | ⟨flaw, bad⟩
      · exact Or.inr ⟨⟨url, project, name, filter, addressed, labelled, filtered⟩⟩
      · exact Or.inl ⟨flaw, .filter addressed labelled bad⟩
    · exact Or.inl ⟨flaw, .label addressed bad⟩
  · exact Or.inl ⟨flaw, .address bad⟩

namespace Inquiry

variable {a : ArtifactSettings} {label : String}

theorem unique (i j : Inquiry a label) : i = j := by
  obtain ⟨url, project, name, filter, addressed, labelled, filtered⟩ := i
  obtain ⟨url', project', name', filter', addressed', labelled', filtered'⟩ := j
  cases addressed.symm.trans addressed'
  cases labelled.symm.trans labelled'
  cases filtered.symm.trans filtered'
  rfl

variable (i : Inquiry a label) (service : BuildService σ)

def FindsDefinition (s : σ) : Except Failure BuildDefinition → σ → Prop :=
  Consulted (service.definitions i.url a.subPathList i.filter)
    (DefinitionChoice label i.project i.name) s

def FindsBuild (locator : String) (d : BuildDefinition) (s : σ) : Except Failure Build → σ → Prop :=
  Consulted (service.builds i.url [d]) (BuildChoice label locator) s

def FindsArtifact (d : BuildDefinition) (b : Build) (s : σ) :
    Except Failure BuildArtifact → σ → Prop :=
  Consulted (service.artifacts i.url d.project b) (ArtifactChoice b) s

end Inquiry

/-- A search that has found a build and what to deploy of it. -/
structure Resolution (service : BuildService σ) (a : ArtifactSettings) (ref : BuildReference)
    (s : σ) extends Inquiry a ref.label where
  definition : BuildDefinition
  build : Build
  artifact : BuildArtifact
  afterFirst : σ
  afterSecond : σ
  afterThird : σ
  definition_found : toInquiry.FindsDefinition service s (.ok definition) afterFirst
  build_found : toInquiry.FindsBuild service ref.locator definition afterFirst (.ok build) afterSecond
  artifact_found :
    toInquiry.FindsArtifact service definition build afterSecond (.ok artifact) afterThird

/-! Searches that end well, however long they were waited for -/

def Act.Gives (m : Act σ α) (s : σ) (a : α) (t : σ) : Prop :=
  (m.run s).result = .ok a ∧ (m.run s).state = t

theorem Act.gives_of_result {m : Act σ α} {s : σ} {a : α} (ended : (m.run s).result = .ok a) :
    m.Gives s a (m.run s).state :=
  ⟨ended, rfl⟩

theorem Act.gives_bind_iff {m : Act σ α} {f : α → Act σ β} {s u : σ} {b : β} :
    (m >>= f).Gives s b u ↔ ∃ a t, m.Gives s a t ∧ (f a).Gives t b u := by
  unfold Gives
  rw [result_bind, state_bind]
  constructor
  · rintro ⟨ended, left⟩
    obtain ⟨a, first, rest⟩ := bind_eq_ok_iff.mp ended
    rw [first] at left
    exact ⟨a, _, ⟨first, rfl⟩, rest, left⟩
  · rintro ⟨a, t, ⟨first, rfl⟩, rest, left⟩
    rw [first]
    exact ⟨rest, left⟩

theorem Act.gives_ofExcept_iff {r : Except Failure α} {s t : σ} {a : α} :
    (Act.ofExcept r).Gives s a t ↔ r = .ok a ∧ s = t := by
  unfold Gives
  rw [result_ofExcept, state_ofExcept]

theorem Act.gives_ofExcept_bind {r : Except Failure α} {f : α → Act σ β} {s u : σ} {b : β}
    (given : (Act.ofExcept r >>= f).Gives s b u) : ∃ a, r = .ok a ∧ (f a).Gives s b u := by
  obtain ⟨a, t, read, rest⟩ := gives_bind_iff.mp given
  obtain ⟨known, rfl⟩ := gives_ofExcept_iff.mp read
  exact ⟨a, known, rest⟩

theorem Act.gives_timed {m : Act (Clocked σ) α} {s t : σ} {a : α} (given : m.timed.Gives s a t) :
    ∃ u, u.state = t ∧ m.Gives ⟨s, ⟨0⟩⟩ a u :=
  ⟨(m.run ⟨s, ⟨0⟩⟩).state, given.2, given.1, rfl⟩

theorem Patience.await_gives {w : Patience} {call : Call σ α} {s t : Clocked σ} {a : α}
    (given : (w.await call).Gives s a t) :
    (call s.state).outcome.result = .ok a ∧ (call s.state).outcome.state = t.state := by
  obtain ⟨ended, left⟩ := given
  rw [Act.run, await] at ended left
  split at ended
  · cases ended
  · rename_i waiting
    rw [if_neg waiting] at left
    subst left
    refine ⟨?_, rfl⟩
    dsimp only at ended
    split at ended
    · cases ended
    · split at ended
      · split at ended
        · cases ended
        · exact ended
      · exact ended

theorem Consulted.of_gives {w : Patience} {call : Call σ α}
    {Choice : α → Except Failure β → Prop} {choose : α → Except Failure β} {s t : Clocked σ} {a : α}
    {b : β} (exact : ∀ a r, Choice a r ↔ choose a = r) (given : (w.await call).Gives s a t)
    (chosen : choose a = .ok b) : Consulted call Choice s.state (.ok b) t.state := by
  obtain ⟨answered, left⟩ := Patience.await_gives given
  rw [← left]
  exact .answered answered ((exact a _).mpr chosen)

namespace Resolver

variable {r : Resolver σ} {w : Patience} {a : ArtifactSettings}

theorem findDefinition_gives {url : Url} (addressed : a.address = .ok url) {label : String}
    {s t : Clocked σ} {d : BuildDefinition} (given : (r.findDefinition w url a label).Gives s d t) :
    ∃ i : Inquiry a label, i.url = url ∧ i.FindsDefinition r.service s.state (.ok d) t.state := by
  obtain ⟨⟨project, name⟩, labelled, given⟩ := Act.gives_ofExcept_bind given
  obtain ⟨filter, filtered, given⟩ := Act.gives_ofExcept_bind given
  obtain ⟨definitions, _, waited, given⟩ := Act.gives_bind_iff.mp given
  obtain ⟨chosen, rfl⟩ := Act.gives_ofExcept_iff.mp given
  exact ⟨⟨url, project, name, filter, addressed, labelled, filtered⟩, rfl,
    .of_gives definitionChoice_iff waited chosen⟩

theorem resolveRemote_gives {ref : BuildReference} {s t : Clocked σ} {detail : BuildDetail}
    (given : (r.resolveRemote w a ref).Gives s detail t) :
    ∃ found : Resolution r.service a ref s.state,
      detail = found.build.detail found.definition found.artifact := by
  obtain ⟨url, addressed, given⟩ := Act.gives_ofExcept_bind given
  obtain ⟨definition, u, first, given⟩ := Act.gives_bind_iff.mp given
  obtain ⟨i, rfl, definition_found⟩ := findDefinition_gives addressed first
  obtain ⟨builds, v, second, given⟩ := Act.gives_bind_iff.mp given
  obtain ⟨build, chosen, given⟩ := Act.gives_ofExcept_bind given
  have build_found : i.FindsBuild r.service ref.locator definition u.state (.ok build) v.state :=
    .of_gives buildChoice_iff second chosen
  obtain ⟨artifacts, x, third, given⟩ := Act.gives_bind_iff.mp given
  obtain ⟨artifact, chosen, given⟩ := Act.gives_ofExcept_bind given
  have artifact_found : i.FindsArtifact r.service definition build v.state (.ok artifact) x.state :=
    .of_gives artifactChoice_iff third chosen
  obtain ⟨same, -⟩ := given
  cases same
  exact ⟨⟨i, definition, build, artifact, u.state, v.state, x.state, definition_found, build_found,
    artifact_found⟩, rfl⟩

theorem resolveUntil_of_buildSystem (r : Resolver σ) (remote : a.source = .buildSystem)
    (cancelAt : Option Duration) (ref : BuildReference) :
    r.resolveUntil cancelAt a ref = (do
      let detail ← (r.resolveRemote (r.patience cancelAt) a ref).timed
      Act.report (.resolved detail.buildNumber detail.dropLocation)
      return detail) := by
  unfold resolveUntil
  simp only [remote]

theorem resolve_of_buildSystem (r : Resolver σ) (remote : a.source = .buildSystem)
    (ref : BuildReference) :
    r.resolve a ref = (do
      let detail ← (r.resolveRemote (r.patience none) a ref).timed
      Act.report (.resolved detail.buildNumber detail.dropLocation)
      return detail) :=
  resolveUntil_of_buildSystem r remote none ref

theorem exists_resolution (remote : a.source = .buildSystem) {ref : BuildReference} {s : σ}
    {detail : BuildDetail} (ended : ((r.resolve a ref).run s).result = .ok detail) :
    ∃ found : Resolution r.service a ref s,
      detail = found.build.detail found.definition found.artifact := by
  rw [resolve_of_buildSystem r remote] at ended
  obtain ⟨searched, t, first, reported⟩ := Act.gives_bind_iff.mp (Act.gives_of_result ended)
  obtain ⟨same, -⟩ := reported
  cases same
  obtain ⟨_, _, given⟩ := Act.gives_timed first
  exact resolveRemote_gives given

def mainCollection : ArtifactSettings where
  url := "https://tfs.example.com/Main"
  subPaths := "Payments"

theorem mainCollection_remote : mainCollection.source = .buildSystem := by decide +kernel

end Resolver

end DeployPlan
