/-!
Environments and what is known about them: deployed builds, servers, databases and grants.
-/

namespace DeployPlan

structure Environment where
  id : UInt64
  name : String
  production : Bool := false
  secure : Bool := false
deriving DecidableEq, Repr, Inhabited

/-- Production and secure environments take builds only that are kept forever. -/
def Environment.requiresPinnedBuilds (e : Environment) : Bool :=
  e.production || e.secure

/-- Which build of a component an environment runs. -/
structure BuildStatus where
  component : String
  buildNumber : String
  dropLocation : String
  uri : String
  project : String
deriving DecidableEq, Repr, Inhabited

structure Daemon where
  name : String
  displayName : String
  account : String
  daemonType : String
deriving DecidableEq, Repr, Inhabited

structure Server where
  name : String
  osName : String
  applicationTags : List String
  daemons : List Daemon
deriving DecidableEq, Repr, Inhabited

structure Database where
  name : String
  server : String
  dbType : String
deriving DecidableEq, Repr, Inhabited

structure DatabaseGrant where
  database : String
  user : String
  roles : List String
deriving DecidableEq, Repr, Inhabited

end DeployPlan
