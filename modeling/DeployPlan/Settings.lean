import DeployPlan.Duration
import DeployPlan.Text.Pieces

/-!
Settings of the planner and of the build system's client.
-/

namespace DeployPlan

structure BuildSystemSettings where
  /-- Limit of a single call; 0 stands for none. -/
  timeoutSeconds : UInt64 := 30
  apiVersion : String := "6.0"
  userAgent : String := "rollout/0.1.0"
  token : Option String := none
deriving DecidableEq, Repr, Inhabited

structure PlanningSettings where
  maxTreeDepth : UInt64 := 64
deriving DecidableEq, Repr, Inhabited

structure Settings where
  buildSystem : BuildSystemSettings := {}
  planning : PlanningSettings := {}
deriving DecidableEq, Repr, Inhabited

def BuildSystemSettings.callLimit (s : BuildSystemSettings) : Option Duration :=
  if s.timeoutSeconds = 0 then none else some (.ofSeconds s.timeoutSeconds.toNat)

namespace Settings

inductive Invalid where
  | apiVersion
  | treeDepth
deriving DecidableEq, Repr

def Invalid.message : Invalid → String
  | .apiVersion => "build_system.api_version must not be empty"
  | .treeDepth => "planning.max_tree_depth must be at least 1"

def validate (s : Settings) : Except Invalid Unit :=
  if Text.blank s.buildSystem.apiVersion then .error .apiVersion
  else if s.planning.maxTreeDepth = 0 then .error .treeDepth
  else .ok ()

/-- Replaces the token by one from outside, unless that is missing or empty. -/
def withToken (s : Settings) : Option String → Settings
  | none => s
  | some t =>
    if t.isEmpty then s else { s with buildSystem := { s.buildSystem with token := some t } }

end Settings

end DeployPlan
