import DeployPlan.Artifact.Source
import DeployPlan.Component.Search
import DeployPlan.Environment

/-!
Read access to what is known about projects and environments. Every read may fail.
-/

namespace DeployPlan

structure ProjectStore where
  project : String → Except Failure (Option Project)
  roots : UInt64 → Except Failure (List Component)
  component : String → Except Failure (Option Component)

structure EnvironmentStore where
  environment : String → Except Failure (Option Environment)
  statuses : UInt64 → Except Failure (List BuildStatus)

structure TopologyStore where
  servers : UInt64 → Except Failure (List Server)
  databases : UInt64 → Except Failure (List Database)
  grants : UInt64 → Except Failure (List DatabaseGrant)

structure PathStore where
  fileShare : Environment → Except Failure (Option String)
  configFile : Environment → Except Failure (Option String)

/-- Puts the named components of a project into an order in which they can be deployed. The names
come sorted and without repetition. -/
abbrev OrderingProvider : Type := Project → List String → Except Failure (List Component)

def nameSet (names : List String) : List String :=
  names.eraseDups.mergeSort fun a b => decide (a ≤ b)

end DeployPlan
