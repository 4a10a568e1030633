import DeployPlan.Failure
import DeployPlan.Pattern.Matching
import DeployPlan.Pattern.Reading
import DeployPlan.Text.Ascii
import DeployPlan.Text.Pieces
import DeployPlan.Url.Parsing

/-!
Where a project publishes its builds and how they are reached: the address is that of a build system, of
a file share, or it is no address at all and builds are folders. The names of build definitions may be
filtered.
-/

namespace DeployPlan

structure ArtifactSettings where
  url : String
  subPaths : String := ""
  nameFilter : Option String := none
deriving DecidableEq, Repr, Inhabited

def ArtifactSettings.subPathList (s : ArtifactSettings) : List String :=
  (((Text.pieces ';' s.subPaths).map Text.trim).filter (!·.isEmpty)).eraseDups

structure Project where
  id : UInt64
  name : String
  artifact : ArtifactSettings
deriving DecidableEq, Repr, Inhabited

inductive ArtifactSource where
  | buildSystem
  | fileShare
  | folder
deriving DecidableEq, Repr, Inhabited

namespace ArtifactSettings

/-- The scheme of the address; a text that is no address stands for itself. -/
def schemeText (a : ArtifactSettings) : String :=
  match Url.parse (Text.trim a.url) with
  | .ok u => Text.lowerCase u.scheme
  | .error _ => Text.lowerCase (Text.trim a.url)

/-- A build system needs scopes to ask for. -/
def source (a : ArtifactSettings) : ArtifactSource :=
  let scheme := a.schemeText.toList
  if "http".toList.isPrefixOf scheme && !a.subPathList.isEmpty then .buildSystem
  else if "file".toList.isPrefixOf scheme then .fileShare
  else .folder

end ArtifactSettings

structure NameFilter where
  text : String
  pattern : Pattern
deriving DecidableEq, Repr

def NameFilter.accepts (f : NameFilter) (name : String) : Bool :=
  f.pattern.occursIn name

def NameFilter.acceptsAll (f : Option NameFilter) (name : String) : Bool :=
  f.all (·.accepts name)

namespace ArtifactSettings

def filter (a : ArtifactSettings) : Except Failure (Option NameFilter) :=
  match a.nameFilter.map Text.trim with
  | none => .ok none
  | some text =>
    if text.isEmpty then .ok none
    else
      match Pattern.read? text with
      | some pattern => .ok (some ⟨text, pattern⟩)
      | none => .error (.invalid (.nameFilter text))

def address (a : ArtifactSettings) : Except Failure Url :=
  match Url.parse (Text.trim a.url) with
  | .ok u => .ok u
  | .error e => .error (.invalid (.address a.url e.message))

end ArtifactSettings

end DeployPlan
