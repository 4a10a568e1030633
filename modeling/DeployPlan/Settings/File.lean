import DeployPlan.Document.Settings
import DeployPlan.Toml.Decoding
import DeployPlan.Toml.Writing

/-!
Settings as text of a configuration file. `toml?` writes all settings, and `ofToml` reads what is
given, takes defaults for the rest and refuses what `validate` refuses.
-/

namespace DeployPlan.Settings

/-- The text of a configuration file. Numbers can be too large to be written. -/
def toml? (s : Settings) : Option String :=
  let b := s.buildSystem
  let timeout := b.timeoutSeconds.toNat
  let depth := s.planning.maxTreeDepth.toNat
  if timeout ≤ Toml.integerLimit ∧ depth ≤ Toml.integerLimit then
    some <| String.ofList <|
      Toml.headerLine "build_system" ++
      Toml.pairLine "timeout_secs" (Number.digits timeout) ++
      Toml.pairLine "api_version" (Toml.writeText b.apiVersion.toList) ++
      Toml.pairLine "user_agent" (Toml.writeText b.userAgent.toList) ++
      (match b.token with
        | none => []
        | some t => Toml.pairLine "token" (Toml.writeText t.toList)) ++
      '\n' :: (Toml.headerLine "planning" ++ Toml.pairLine "max_tree_depth" (Number.digits depth))
  else none

inductive Unusable where
  | unreadable (c : Toml.Complaint)
  | invalid (i : Invalid)
deriving Repr

def Unusable.message : Unusable → String
  | .unreadable c => c.message
  | .invalid i => i.message

def ofToml (text : String) : Except Unusable Settings :=
  match Toml.decode Settings.decoder text with
  | .error c => .error (.unreadable c)
  | .ok s =>
    match s.validate with
    | .error i => .error (.invalid i)
    | .ok () => .ok s

end DeployPlan.Settings
