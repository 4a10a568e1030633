import DeployPlan.Build.Resolver
import DeployPlan.Web.Listing

/-!
A build system behind a server of the web. Each remote project has endpoints for its definitions, for
the builds of definitions, and for what a build has published; all of them are lists.
-/

namespace DeployPlan.Web

open Json (Decoder)

/-! What the server sends -/

def projectNameDecoder : Decoder String :=
  Json.record "ProjectReference" (.cons "name" Json.text (some "") .nil) fun (n, ()) => n

/-- A definition belongs to the project it names, else to the one that was asked. -/
def definitionDecoder (asked : String) : Decoder BuildDefinition :=
  Json.record "Definition"
    (.cons "id" Json.word none <| .cons "name" Json.text none <|
      .cons "project" (Json.optional projectNameDecoder) (some none) .nil)
    fun (id, name, project, ()) =>
      ⟨id, name, (project.filter (!·.isEmpty)).getD asked⟩

def definitionIdDecoder : Decoder UInt64 :=
  Json.record "DefinitionReference" (.cons "id" Json.word (some 0) .nil) fun (i, ()) => i

def buildDecoder : Decoder Build :=
  Json.record "Build"
    (.cons "id" (Json.optional Json.word) (some none) <|
      .cons "buildNumber" Json.text none <|
      .cons "uri" Json.text (some "") <|
      .cons "status" (Json.optional Json.text) (some none) <|
      .cons "result" (Json.optional Json.text) (some none) <|
      .cons "keepForever" Json.bool (some false) <|
      .cons "url" Json.text (some "") <|
      .cons "project" projectNameDecoder (some "") <|
      .cons "definition" definitionIdDecoder (some 0) .nil)
    fun (id, number, uri, status, result, keepForever, url, project, definitionId, ()) =>
      { id, number, uri, status := status.getD "", result := result.getD "", keepForever, url,
        project, definitionId }

def downloadDecoder : Decoder String :=
  Json.record "Resource" (.cons "downloadUrl" Json.text (some "") .nil) fun (u, ()) => u

def artifactDecoder : Decoder BuildArtifact :=
  Json.record "Artifact"
    (.cons "name" Json.text none <| .cons "resource" downloadDecoder (some "") .nil)
    fun (name, url, ()) => ⟨name, url⟩

/-! Endpoints and calls -/

namespace Client

variable {σ : Type}

def ofSettings (s : BuildSystemSettings) (exchange : Exchange σ) : Except Failure (Client σ) :=
  if legalHeaderValue s.userAgent then .ok ⟨s, exchange⟩
  else .error (.transport (.unbuildable none))

def endpoint (c : Client σ) (base : Url) (project : String) (segments : List String) :
    Except Failure Url :=
  match base.withSegments? ([project, "_apis", "build"] ++ segments) with
  | some url => .ok (url.withPair "api-version" c.settings.apiVersion)
  | none => .error (.invalid (.noBaseAddress base.text))

def definitions (c : Client σ) (pages : Nat) (base : Url) (filter : Option NameFilter) :
    List String → Act σ (Option (List BuildDefinition))
  | [] => return some []
  | scope :: scopes => do
    let url ← Act.ofExcept (c.endpoint base scope ["definitions"])
    match ← c.list (definitionDecoder scope) pages url with
    | none => return none
    | some found =>
      let more ← c.definitions pages base filter scopes
      return more.map ((found.filter fun d => NameFilter.acceptsAll filter d.name) ++ ·)

/-- The projects of definitions in ascending order, each with the ids of its definitions. -/
def idsByProject (ds : List BuildDefinition) : List (String × List UInt64) :=
  let projects := ((ds.map (·.project)).eraseDups).mergeSort fun a b => decide (a ≤ b)
  projects.map fun p => (p, (ds.filter (·.project == p)).map (·.id))

def buildsOf (c : Client σ) (pages : Nat) (base : Url) :
    List (String × List UInt64) → Act σ (Option (List Build))
  | [] => return some []
  | (project, ids) :: rest => do
    let url ← Act.ofExcept (c.endpoint base project ["builds"])
    let wanted := Text.join "," (ids.map fun i => Number.text i.toNat)
    match ← c.list buildDecoder pages (url.withPair "definitions" wanted) with
    | none => return none
    | some found =>
      let more ← c.buildsOf pages base rest
      return more.map (found ++ ·)

def builds (c : Client σ) (pages : Nat) (base : Url) (ds : List BuildDefinition) :
    Act σ (Option (List Build)) :=
  c.buildsOf pages base (idsByProject ds)

def artifacts (c : Client σ) (pages : Nat) (base : Url) (project : String) (b : Build) :
    Act σ (Option (List BuildArtifact)) := do
  match b.id with
  | none => Act.fail (.buildSystem (.unnumberedBuild b.number))
  | some id =>
    let url ← Act.ofExcept (c.endpoint base project ["builds", Number.text id.toNat, "artifacts"])
    c.list artifactDecoder pages url

/-- A listing that has not ended within the given number of pages has no items to offer. -/
def ended {α : Type} (base : Url) (m : Act σ (Option (List α))) : Act σ (List α) := do
  match ← m with
  | some items => return items
  | none => Act.fail (.buildSystem (.unending base.text))

def service (c : Client σ) (pages : Nat) : BuildService σ where
  definitions base scopes filter := fun s =>
    ⟨⟨0⟩, (ended base (c.definitions pages base filter scopes)).run s⟩
  builds base ds := fun s => ⟨⟨0⟩, (ended base (c.builds pages base ds)).run s⟩
  artifacts base project b := fun s =>
    ⟨⟨0⟩, (ended base (c.artifacts pages base project b)).run s⟩

def resolver (c : Client σ) (pages : Nat) : Resolver σ where
  service := c.service pages
  limit := c.settings.callLimit

end Client

end DeployPlan.Web
