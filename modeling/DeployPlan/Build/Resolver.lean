import DeployPlan.Build.Service

/-!
From a reference to a build. At a build system the label names one definition, the locator one of its
builds, and the build is fetched from what it has published. On a file share the locator is a path that
ends with the build's number, and otherwise it is the folder to deploy.
-/

namespace DeployPlan

structure Resolver (σ : Type) where
  service : BuildService σ
  limit : Option Duration := none

def preferredArtifact : String := "drop"

/-- The preferred artifact if there are several, else the first. -/
def selectArtifact? (artifacts : List BuildArtifact) : Option BuildArtifact :=
  let preferred :=
    if artifacts.length > 1 then
      artifacts.find? fun a => Text.sameIgnoringCase a.name preferredArtifact
    else none
  preferred.or artifacts.head?

def isPathSeparator (c : Char) : Bool :=
  c = '/' || c = '\\'

def lastSegment (path : List Char) : List Char :=
  ((path.reverse.dropWhile isPathSeparator).takeWhile (!isPathSeparator ·)).reverse

def BuildReference.onFileShare (r : BuildReference) : BuildDetail where
  buildNumber := String.ofList (lastSegment r.locator.toList)
  dropLocation := r.locator
  uri := r.locator

def BuildReference.asFolder (r : BuildReference) : BuildDetail where
  dropLocation := r.locator

def selectDefinition (label project name : String) (definitions : List BuildDefinition) :
    Except Failure BuildDefinition :=
  match definitions.filter fun d => d.name == name && d.project == project with
  | [] => .error (.artifactNotFound (.definition name project))
  | [d] => .ok d
  | ds => .error (.ambiguousDefinition label ds.length)

def selectBuild (label locator : String) (builds : List Build) : Except Failure Build :=
  match builds.find? (·.isAt locator) with
  | some b => .ok b
  | none => .error (.artifactNotFound (.build locator label))

def selectArtifact (build : Build) (artifacts : List BuildArtifact) : Except Failure BuildArtifact :=
  match selectArtifact? artifacts with
  | some a => .ok a
  | none => .error (.artifactNotFound (.artifacts build.number))

/-- What is deployed of a build. A build that names no project belongs to that of its definition. -/
def Build.detail (b : Build) (definition : BuildDefinition) (artifact : BuildArtifact) :
    BuildDetail where
  buildId := b.id
  buildNumber := b.number
  dropLocation := artifact.downloadUrl
  project := if b.project.isEmpty then definition.project else b.project
  uri := b.uri

namespace Resolver

variable {σ : Type}

def patience (r : Resolver σ) (cancelAt : Option Duration) : Patience := ⟨r.limit, cancelAt⟩

def findDefinition (r : Resolver σ) (w : Patience) (url : Url) (a : ArtifactSettings)
    (label : String) : Act (Clocked σ) BuildDefinition := do
  let (project, name) ← Act.ofExcept (parseLabel label)
  let filter ← Act.ofExcept a.filter
  let definitions ← w.await (r.service.definitions url a.subPathList filter)
  Act.ofExcept (selectDefinition label project name definitions)

def resolveRemote (r : Resolver σ) (w : Patience) (a : ArtifactSettings) (ref : BuildReference) :
    Act (Clocked σ) BuildDetail := do
  let url ← Act.ofExcept a.address
  let definition ← r.findDefinition w url a ref.label
  let builds ← w.await (r.service.builds url [definition])
  let build ← Act.ofExcept (selectBuild ref.label ref.locator builds)
  let artifacts ← w.await (r.service.artifacts url definition.project build)
  let artifact ← Act.ofExcept (selectArtifact build artifacts)
  return build.detail definition artifact

/-- The build a reference stands for; remote calls are given up at the instant `cancelAt`. -/
def resolveUntil (r : Resolver σ) (cancelAt : Option Duration) (a : ArtifactSettings)
    (ref : BuildReference) : Act σ BuildDetail := do
  let detail ←
    match a.source with
    | .buildSystem => (r.resolveRemote (r.patience cancelAt) a ref).timed
    | .fileShare => pure ref.onFileShare
    | .folder => pure ref.asFolder
  Act.report (.resolved detail.buildNumber detail.dropLocation)
  return detail

def resolve (r : Resolver σ) (a : ArtifactSettings) (ref : BuildReference) : Act σ BuildDetail :=
  r.resolveUntil none a ref

def labels (r : Resolver σ) (a : ArtifactSettings) : Act σ (List String) := do
  let url ← Act.ofExcept a.address
  let filter ← Act.ofExcept a.filter
  let definitions ←
    ((r.patience none).await (r.service.definitions url a.subPathList filter)).timed
  return definitions.map (·.label)

def candidatesRemote (r : Resolver σ) (a : ArtifactSettings) (label : String) :
    Act (Clocked σ) (List Build) := do
  let url ← Act.ofExcept a.address
  let definition ← r.findDefinition (r.patience none) url a label
  (r.patience none).await (r.service.builds url [definition])

def candidates (r : Resolver σ) (a : ArtifactSettings) (label : String) (target : Environment) :
    Act σ (List BuildCandidate) := do
  if a.source = .buildSystem then
    let builds ← (r.candidatesRemote a label).timed
    let offered := candidatesFor builds target
    Act.report (.candidates offered.length target.requiresPinnedBuilds)
    return offered
  else Act.fail (.invalid (.notRemote a.url))

def describe (r : Resolver σ) : String :=
  let limit :=
    match r.limit with
    | none => "None"
    | some d => "Some(" ++ d.text ++ ")"
  "BuildArtifactResolver \x7b call_timeout: " ++ limit ++ ", .. \x7d"

end Resolver

end DeployPlan
