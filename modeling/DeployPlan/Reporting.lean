import DeployPlan.Json.Value

/-!
What is reported while work goes on, and where it goes. A process has one receiver of events, which is
installed once and for all.
-/

namespace DeployPlan

inductive Event where
  | wholeProject (components : Nat)
  | noStatus (component : String)
  | nothingDeployable (buildNumber : String)
  | assembled (buildNumber : String) (components : Nat)
  | planned (requests : Nat)
  | submitted (id batch : Nat) (buildNumber : String)
  | submissionStopped (batch : Nat) (error : String)
  | resolved (buildNumber dropLocation : String)
  | candidates (count : Nat) (pinnedOnly : Bool)
  | querying (url : String)
  | scopeResolved (servers databases : Nat)
deriving DecidableEq, Repr, Inhabited

inductive Event.Level where
  | debug
  | info
  | warn
deriving DecidableEq, Repr

def Event.Level.name : Event.Level → String
  | .debug => "DEBUG"
  | .info => "INFO"
  | .warn => "WARN"

namespace Event

def level : Event → Level
  | planned _ | submitted _ _ _ | resolved _ _ => .info
  | noStatus _ | submissionStopped _ _ => .warn
  | _ => .debug

def message : Event → String
  | wholeProject _ => "no selection; planning whole project"
  | noStatus _ => "no build status in source environment"
  | nothingDeployable _ => "batch has no deployable components"
  | assembled _ _ => "assembled deployment request"
  | planned _ => "planned deployment"
  | submitted _ _ _ => "submitted deployment request"
  | submissionStopped _ _ => "submission stopped part-way"
  | resolved _ _ => "resolved build artifact"
  | candidates _ _ => "listed candidate builds"
  | querying _ => "querying build system"
  | scopeResolved _ _ => "resolved variable scope"

def fields : Event → List (String × Json.Value)
  | wholeProject n => [("components", .nat n)]
  | noStatus c => [("component", .text c)]
  | nothingDeployable b => [("build_number", .text b)]
  | assembled b n => [("build_number", .text b), ("components", .nat n)]
  | planned n => [("requests", .nat n)]
  | submitted id batch b =>
    [("request_id", .nat id), ("batch", .nat batch), ("build_number", .text b)]
  | submissionStopped batch e => [("batch", .nat batch), ("error", .text e)]
  | resolved b d => [("build_number", .text b), ("drop_location", .text d)]
  | candidates n p => [("count", .nat n), ("pinned_only", .bool p)]
  | querying u => [("url", .text u)]
  | scopeResolved s d => [("servers", .nat s), ("databases", .nat d)]

def json (e : Event) : Json.Value :=
  .object [("level", .text e.level.name), ("message", .text e.message),
    ("fields", .object e.fields)]

end Event

structure Reporting where
  receiver : Option String := none
deriving DecidableEq, Repr, Inhabited

structure AlreadyInstalled where
deriving DecidableEq, Repr

def AlreadyInstalled.message : AlreadyInstalled → String
  | _ =>
    "Failed to install tracing subscriber: a global default trace dispatcher has already been set"

def Reporting.install (r : Reporting) (directive : String) : Except AlreadyInstalled Reporting :=
  match r.receiver with
  | some _ => .error ⟨⟩
  | none => .ok ⟨some directive⟩

end DeployPlan
