import DeployPlan.Web.BuildServer

/-!
Failures. Which failures work can end with is known step by step: a sequence of steps fails as one of
its steps does. The resolver adds only failures of its own kinds to those of the service it asks, and
a server of the web is asked with failures of three kinds.
-/

namespace DeployPlan

variable {σ α β : Type} {allowed : Failure → Prop}

/-- All failures this work can end with are allowed. -/
def Act.FailsOnly (allowed : Failure → Prop) (m : Act σ α) : Prop :=
  ∀ s e, (m.run s).result = .error e → allowed e

def Call.FailsOnly (allowed : Failure → Prop) (call : Call σ α) : Prop :=
  ∀ s e, (call s).outcome.result = .error e → allowed e

structure BuildService.FailsOnly (allowed : Failure → Prop) (service : BuildService σ) : Prop where
  definitions url scopes filter : (service.definitions url scopes filter).FailsOnly allowed
  builds url definitions : (service.builds url definitions).FailsOnly allowed
  artifacts url project build : (service.artifacts url project build).FailsOnly allowed

theorem BuildService.FailsOnly.mono {others : Failure → Prop} {service : BuildService σ}
    (all : service.FailsOnly allowed) (weaker : ∀ e, allowed e → others e) :
    service.FailsOnly others where
  definitions url scopes filter s e failed :=
    weaker e (all.definitions url scopes filter s e failed)
  builds url definitions s e failed := weaker e (all.builds url definitions s e failed)
  artifacts url project build s e failed := weaker e (all.artifacts url project build s e failed)

namespace Act.FailsOnly

theorem pure (a : α) : (Pure.pure a : Act σ α).FailsOnly allowed := by
  intro s e failed
  cases failed

theorem report (event : Event) : (Act.report event : Act σ Unit).FailsOnly allowed := by
  intro s e failed
  cases failed

theorem fail {e : Failure} (known : allowed e) : (Act.fail e : Act σ α).FailsOnly allowed := by
  intro s f failed
  cases failed
  exact known

theorem ofExcept {r : Except Failure α} (known : ∀ e, r = .error e → allowed e) :
    (Act.ofExcept r : Act σ α).FailsOnly allowed := by
  intro s e failed
  rw [result_ofExcept] at failed
  exact known e failed

theorem bind {m : Act σ α} {f : α → Act σ β} (first : m.FailsOnly allowed)
    (next : ∀ a, (f a).FailsOnly allowed) : (m >>= f).FailsOnly allowed := by
  intro s e failed
  rw [result_bind] at failed
  cases answer : (m.run s).result with
  | error g =>
    rw [answer] at failed
    cases failed
    exact first s e answer
  | ok a =>
    rw [answer] at failed
    exact next a (m.run s).state e failed

theorem timed {m : Act (Clocked σ) α} (all : m.FailsOnly allowed) : m.timed.FailsOnly allowed :=
  fun s e failed => all ⟨s, ⟨0⟩⟩ e failed

theorem await {call : Call σ α} (answered : call.FailsOnly allowed) (cancelled : allowed .cancelled)
    (timeout : ∀ limit, allowed (.timeout limit)) (w : Patience) :
    (w.await call).FailsOnly allowed := by
  intro s e failed
  rw [Act.run, Patience.await] at failed
  split at failed
  · cases failed
    exact cancelled
  · dsimp only at failed
    split at failed
    · cases failed
      exact cancelled
    · split at failed
      · split at failed
        · cases failed
          exact timeout _
        · exact answered s.state e failed
      · exact answered s.state e failed

end Act.FailsOnly

def Failure.ofResolution : Failure → Bool
  | .invalid _ | .artifactNotFound _ | .ambiguousDefinition .. | .timeout _ | .cancelled => true
  | _ => false

def Failure.ofServer : Failure → Bool
  | .invalid _ | .transport _ | .buildSystem _ => true
  | _ => false

theorem parseLabel_error {label : String} {e : Failure} (failed : parseLabel label = .error e) :
    e.ofResolution = true := by
  rw [parseLabel] at failed
  split at failed
  · cases failed
    rfl
  · dsimp only at failed
    split at failed
    · cases failed
      rfl
    · cases failed

theorem ArtifactSettings.filter_error {a : ArtifactSettings} {e : Failure}
    (failed : a.filter = .error e) : e.ofResolution = true := by
  rw [filter] at failed
  split at failed
  · cases failed
  · split at failed
    · cases failed
    · split at failed
      · cases failed
      · cases failed
        rfl

theorem ArtifactSettings.address_error {a : ArtifactSettings} {e : Failure}
    (failed : a.address = .error e) : e.ofResolution = true := by
  rw [address] at failed
  split at failed
  · cases failed
  · cases failed
    rfl

theorem selectDefinition_error {label project name : String} {definitions : List BuildDefinition}
    {e : Failure} (failed : selectDefinition label project name definitions = .error e) :
    e.ofResolution = true := by
  rw [selectDefinition] at failed
  split at failed
  · cases failed
    rfl
  · cases failed
  · cases failed
    rfl

theorem selectBuild_error {label locator : String} {builds : List Build} {e : Failure}
    (failed : selectBuild label locator builds = .error e) : e.ofResolution = true := by
  rw [selectBuild] at failed
  split at failed
  · cases failed
  · cases failed
    rfl

theorem selectArtifact_error {build : Build} {artifacts : List BuildArtifact} {e : Failure}
    (failed : selectArtifact build artifacts = .error e) : e.ofResolution = true := by
  rw [selectArtifact] at failed
  split at failed
  · cases failed
  · cases failed
    rfl

namespace Resolver

variable {r : Resolver σ} (served : r.service.FailsOnly allowed)
  (own : ∀ e : Failure, e.ofResolution = true → allowed e)

include served own

theorem findDefinition_failsOnly (w : Patience) (url : Url) (a : ArtifactSettings) (label : String) :
    (r.findDefinition w url a label).FailsOnly allowed := by
  refine .bind (.ofExcept fun e failed => own e (parseLabel_error failed)) fun (project, name) => ?_
  refine .bind (.ofExcept fun e failed => own e (a.filter_error failed)) fun filter => ?_
  refine .bind (.await (served.definitions url _ filter) (own _ rfl) (fun _ => own _ rfl) w) ?_
  intro definitions
  exact .ofExcept fun e failed => own e (selectDefinition_error failed)

theorem resolveRemote_failsOnly (w : Patience) (a : ArtifactSettings) (ref : BuildReference) :
    (r.resolveRemote w a ref).FailsOnly allowed := by
  have waits {γ : Type} {call : Call σ γ} (answered : call.FailsOnly allowed) :
      (w.await call).FailsOnly allowed :=
    .await answered (own _ rfl) (fun _ => own _ rfl) w
  refine .bind (.ofExcept fun e failed => own e (a.address_error failed)) fun url => ?_
  refine .bind (findDefinition_failsOnly served own w url a ref.label) fun definition => ?_
  refine .bind (waits (served.builds url [definition])) fun builds => ?_
  refine .bind (.ofExcept fun e failed => own e (selectBuild_error failed)) fun build => ?_
  refine .bind (waits (served.artifacts url definition.project build)) fun artifacts => ?_
  refine .bind (.ofExcept fun e failed => own e (selectArtifact_error failed)) fun artifact => ?_
  exact .pure _

theorem resolve_failsOnly (a : ArtifactSettings) (ref : BuildReference) :
    (r.resolve a ref).FailsOnly allowed := by
  -- `rw` would evaluate the source of the settings to find the equations of the definition
  delta resolve resolveUntil
  generalize a.source = source
  have reported (detail : BuildDetail) :
      (Act.report (.resolved detail.buildNumber detail.dropLocation) >>= fun _ =>
        (Pure.pure detail : Act σ BuildDetail)).FailsOnly allowed :=
    .bind (.report _) fun _ => .pure detail
  cases source with
  | buildSystem => exact .bind (.timed (resolveRemote_failsOnly served own _ a ref)) reported
  | fileShare => exact .bind (.pure _) reported
  | folder => exact .bind (.pure _) reported

end Resolver

namespace Web.Client

variable (c : Client σ)

theorem endpoint_error {base : Url} {project : String} {segments : List String} {e : Failure}
    (failed : c.endpoint base project segments = .error e) : e.ofServer = true := by
  rw [endpoint] at failed
  split at failed
  · cases failed
  · cases failed
    rfl

theorem result_send {url : Url} (far : url.fetchable = true) (s : σ) :
    ((c.send url).run s).result = (c.exchange (c.request url) s).1.elim
      (.error (.transport (.unanswered url.withoutUserinfo.text))) .ok := by
  have sent : c.send url = _ := if_neg (by simp [far])
  rw [Act.run, sent]
  dsimp only
  obtain ⟨answer?, after⟩ := c.exchange (c.request url) s
  cases answer? with
  | none => rfl
  | some response => rfl

theorem send_failsOnly (url : Url) : (c.send url).FailsOnly (·.ofServer = true) := by
  intro s e failed
  by_cases far : url.fetchable = true
  · rw [result_send c far] at failed
    cases answer : (c.exchange (c.request url) s).1 with
    | none =>
      rw [answer] at failed
      cases failed
      rfl
    | some response =>
      rw [answer] at failed
      cases failed
  · have refused : c.send url = _ := if_pos (by simp [far])
    rw [refused] at failed
    cases failed
    rfl

theorem page_failsOnly (item : Json.Decoder α) (url : Url) (token : Option String) :
    (c.page item url token).FailsOnly (·.ofServer = true) := by
  refine .bind (.report _) fun _ => .bind (c.send_failsOnly _) fun response => ?_
  split
  · exact .fail rfl
  · split
    · exact .fail rfl
    · exact .pure _

theorem listFrom_failsOnly (item : Json.Decoder α) (url : Url) (pages : Nat)
    (token : Option String) (items : List α) :
    (c.listFrom item url pages token items).FailsOnly (·.ofServer = true) := by
  induction pages generalizing token items with
  | zero => exact .pure _
  | succ pages ih =>
    refine .bind (c.page_failsOnly item url token) fun (more, next) => ?_
    cases next with
    | none => exact .pure _
    | some t =>
      dsimp only
      split
      · exact .fail rfl
      · exact ih (some t) (items ++ more)

theorem definitions_failsOnly (pages : Nat) (base : Url) (filter : Option NameFilter)
    (scopes : List String) :
    (c.definitions pages base filter scopes).FailsOnly (·.ofServer = true) := by
  induction scopes with
  | nil => exact .pure _
  | cons scope scopes ih =>
    refine .bind (.ofExcept fun e failed => c.endpoint_error failed) fun url => ?_
    refine .bind (c.listFrom_failsOnly _ url pages none []) fun found? => ?_
    cases found? with
    | none => exact .pure _
    | some found => exact .bind ih fun more => .pure _

theorem buildsOf_failsOnly (pages : Nat) (base : Url) (wanted : List (String × List UInt64)) :
    (c.buildsOf pages base wanted).FailsOnly (·.ofServer = true) := by
  induction wanted with
  | nil => exact .pure _
  | cons one wanted ih =>
    refine .bind (.ofExcept fun e failed => c.endpoint_error failed) fun url => ?_
    refine .bind (c.listFrom_failsOnly _ _ pages none []) fun found? => ?_
    cases found? with
    | none => exact .pure _
    | some found => exact .bind ih fun more => .pure _

theorem artifacts_failsOnly (pages : Nat) (base : Url) (project : String) (b : Build) :
    (c.artifacts pages base project b).FailsOnly (·.ofServer = true) := by
  rw [artifacts]
  split
  · exact .fail rfl
  · exact .bind (.ofExcept fun e failed => c.endpoint_error failed) fun url =>
      c.listFrom_failsOnly _ url pages none []

theorem ended_failsOnly {m : Act σ (Option (List α))} (base : Url)
    (all : m.FailsOnly (·.ofServer = true)) : (ended base m).FailsOnly (·.ofServer = true) := by
  refine .bind all fun items? => ?_
  cases items? with
  | none => exact .fail rfl
  | some items => exact .pure items

theorem service_failsOnly (pages : Nat) : (c.service pages).FailsOnly (·.ofServer = true) where
  definitions url scopes filter := fun s e failed =>
    ended_failsOnly url (c.definitions_failsOnly pages url filter scopes) s e failed
  builds url definitions := fun s e failed =>
    ended_failsOnly url (c.buildsOf_failsOnly pages url (idsByProject definitions)) s e failed
  artifacts url project build := fun s e failed =>
    ended_failsOnly url (c.artifacts_failsOnly pages url project build) s e failed

theorem service_ne_tooDeep (pages : Nat) :
    (c.service pages).FailsOnly fun e => ∀ n bound, e ≠ .treeTooDeep n bound := by
  refine (c.service_failsOnly pages).mono ?_
  rintro e known n bound rfl
  cases known

end Web.Client

end DeployPlan
