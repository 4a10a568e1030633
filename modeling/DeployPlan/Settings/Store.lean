import DeployPlan.Files
import DeployPlan.Settings.File

/-!
Settings kept in a file. Without the file there are the defaults; a token from the surroundings takes
precedence over the one in the file and is never saved.
-/

namespace DeployPlan.Settings

structure Store where
  base : String
  path : String
  files : Files := {}
  token : Option (List UInt8) := none

def defaultPath : String := "rollout/rollout.toml"

/-- Why settings were not loaded or saved. A place is shown with the directory paths start from. -/
inductive StoreError where
  | unreadable (place : String) (cause : FileError)
  | unusable (place : String) (cause : Unusable)
  | tooLarge
  | noDirectory (place : String) (cause : FileError)
  | unwritable (place : String) (cause : FileError)
deriving Repr

def StoreError.chain : StoreError → List String
  | .unreadable place cause => ["Failed to read config file: " ++ place, "io: " ++ cause.name]
  | .unusable place cause => ["Failed to parse config file: " ++ place, cause.message]
  | .tooLarge => ["Failed to serialize configuration to TOML"]
  | .noDirectory place cause =>
    ["Failed to create config directory: " ++ place, "io: " ++ cause.name]
  | .unwritable place cause => ["Failed to write config file: " ++ place, "io: " ++ cause.name]

namespace Store

def shown (s : Store) (path : String) : String :=
  s.base ++ "/" ++ path

def names (s : Store) : List String :=
  Files.namesOf s.path

/-- The directory of the file, as it is shown. -/
def directoryShown (s : Store) : String :=
  Text.join "/" (s.base :: s.names.dropLast)

def outerToken (s : Store) : Option String :=
  (s.token.bind Text.Utf8.decode?).map String.ofList

def stored (s : Store) : Except StoreError Settings :=
  if (s.files.at? s.names).isNone then .ok {}
  else
    match s.files.text s.names with
    | .error e => .error (.unreadable (s.shown s.path) e)
    | .ok text => (Settings.ofToml text).mapError (.unusable (s.shown s.path))

def load (s : Store) : Except StoreError Settings :=
  s.stored.map (·.withToken s.outerToken)

def save (s : Store) (settings : Settings) : Except StoreError Store :=
  match settings.toml? with
  | none => .error .tooLarge
  | some text =>
    match s.files.addDirectory s.names.dropLast with
    | .error e => .error (.noDirectory s.directoryShown e)
    | .ok files =>
      match files.write s.names (Text.Utf8.encode text.toList) with
      | .error e => .error (.unwritable (s.shown s.path) e)
      | .ok files => .ok { s with files := files }

end Store

end DeployPlan.Settings
