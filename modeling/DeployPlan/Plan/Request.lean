import DeployPlan.Build

/-!
Requests: what a caller asks to be planned, and what a plan consists of.
-/

namespace DeployPlan

/-- A setting applied on top of an environment's defaults. Order counts and names may repeat. -/
structure Property where
  name : String
  value : String
deriving DecidableEq, Repr, Inhabited

/-- One deployment of one build to one environment. -/
structure DeploymentRequest where
  environment : String
  components : List String := []
  componentsToSkip : List String := []
  build : BuildDetail
  properties : List Property := []
deriving DecidableEq, Repr, Inhabited

structure CopyOrder where
  project : String
  source : String
  target : String
  selected : List String := []
  skip : List String := []
  overrides : List Property := []
deriving DecidableEq, Repr, Inhabited

structure BuildOrder where
  project : String
  target : String
  build : BuildReference
  selected : List String := []
  skip : List String := []
  overrides : List Property := []
deriving DecidableEq, Repr, Inhabited

end DeployPlan
