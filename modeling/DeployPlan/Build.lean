import DeployPlan.Environment
import DeployPlan.Failure
import DeployPlan.Text.Pieces

/-!
Builds, the definitions they are runs of, references to them, and the pinned-build policy.
-/

namespace DeployPlan

structure BuildDefinition where
  id : UInt64
  name : String
  project : String
deriving DecidableEq, Repr, Inhabited

structure Build where
  id : Option UInt64 := none
  number : String := ""
  uri : String := ""
  status : String := ""
  result : String := ""
  keepForever : Bool := false
  url : String := ""
  project : String := ""
  definitionId : UInt64 := 0
deriving DecidableEq, Repr, Inhabited

structure BuildArtifact where
  name : String
  downloadUrl : String
deriving DecidableEq, Repr, Inhabited

structure BuildDetail where
  buildId : Option UInt64 := none
  buildNumber : String := ""
  dropLocation : String := ""
  project : String := ""
  uri : String := ""
deriving DecidableEq, Repr, Inhabited

/-- A caller's pointer at a build: a label `<project>; <definition>` and a locator, which is a
build's address or number, or a path. -/
structure BuildReference where
  label : String
  locator : String
deriving DecidableEq, Repr, Inhabited

structure BuildCandidate where
  displayName : String
  buildNumber : String
  locator : String
  pinned : Bool
deriving DecidableEq, Repr, Inhabited

/-- The trimmed project and definition of a label. Neither may be blank, and a second semicolon is
refused. -/
def parseLabel (label : String) : Except Failure (String × String) :=
  match Text.cutAt? ';' label.toList with
  | none => .error (.invalid (.label label))
  | some (before, after) =>
    let project := Text.trimChars before
    let name := Text.trimChars after
    if project.isEmpty || name.isEmpty || name.contains ';' then .error (.invalid (.label label))
    else .ok (String.ofList project, String.ofList name)

def BuildDefinition.label (d : BuildDefinition) : String :=
  d.project ++ "; " ++ d.name

def pinnedMark : String := " [PINNED]"

def Build.candidate (b : Build) : BuildCandidate where
  displayName := if b.keepForever then b.number ++ pinnedMark else b.number
  buildNumber := b.number
  locator := if b.url.isEmpty then b.uri else b.url
  pinned := b.keepForever

/-- The builds that `target` accepts, in the order given. -/
def candidatesFor (builds : List Build) (target : Environment) : List BuildCandidate :=
  (builds.filter fun b => !target.requiresPinnedBuilds || b.keepForever).map Build.candidate

/-- A locator names a build by its address, its uri or its number. -/
def Build.isAt (b : Build) (locator : String) : Bool :=
  b.url == locator || b.uri == locator || b.number == locator

end DeployPlan
