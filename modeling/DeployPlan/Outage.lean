import DeployPlan.Stores

/-!
Stores some of whose reads are out of order. Such a read fails, whoever asks.
-/

namespace DeployPlan

inductive Reading where
  | project
  | componentsForProject
  | componentByName
  | environment
  | componentStatuses
  | servers
  | databases
  | databaseGrants
  | fileSharePath
  | configFilePath
deriving DecidableEq, Repr

namespace Reading

def all : List Reading :=
  [project, componentsForProject, componentByName, environment, componentStatuses, servers,
    databases, databaseGrants, fileSharePath, configFilePath]

def name : Reading → String
  | project => "project"
  | componentsForProject => "components_for_project"
  | componentByName => "component_by_name"
  | environment => "environment"
  | componentStatuses => "component_statuses"
  | servers => "servers"
  | databases => "databases"
  | databaseGrants => "database_grants"
  | fileSharePath => "file_share_path"
  | configFilePath => "config_file_path"

def ofName? (s : String) : Option Reading :=
  all.find? (·.name == s)

def guarded {α : Type} (out : List Reading) (r : Reading) (answer : Except Failure α) :
    Except Failure α :=
  if out.contains r then .error (.store (r.name ++ " unavailable")) else answer

end Reading

def ProjectStore.without (s : ProjectStore) (out : List Reading) : ProjectStore where
  project n := Reading.guarded out .project (s.project n)
  roots i := Reading.guarded out .componentsForProject (s.roots i)
  component n := Reading.guarded out .componentByName (s.component n)

def EnvironmentStore.without (s : EnvironmentStore) (out : List Reading) : EnvironmentStore where
  environment n := Reading.guarded out .environment (s.environment n)
  statuses i := Reading.guarded out .componentStatuses (s.statuses i)

def TopologyStore.without (s : TopologyStore) (out : List Reading) : TopologyStore where
  servers i := Reading.guarded out .servers (s.servers i)
  databases i := Reading.guarded out .databases (s.databases i)
  grants i := Reading.guarded out .databaseGrants (s.grants i)

def PathStore.without (s : PathStore) (out : List Reading) : PathStore where
  fileShare e := Reading.guarded out .fileSharePath (s.fileShare e)
  configFile e := Reading.guarded out .configFilePath (s.configFile e)

end DeployPlan
