import DeployPlan.Keyed
import DeployPlan.Stores

/-!
A catalog of projects, environments and topology held in memory. Projects and environments are found
by name; forests and all that belongs to an environment by number. Adding something under a name or
number that is taken replaces what was there.
-/

namespace DeployPlan

structure Catalog where
  projects : List (String × Project) := []
  /-- The forest of each project number, in the order in which all components are searched. -/
  forests : List (UInt64 × List Component) := []
  environments : List (String × Environment) := []
  statuses : List (UInt64 × List BuildStatus) := []
  servers : List (UInt64 × List Server) := []
  databases : List (UInt64 × List Database) := []
  grants : List (UInt64 × List DatabaseGrant) := []
  fileShares : List (UInt64 × String) := []
  configFiles : List (UInt64 × String) := []
deriving Inhabited

namespace Catalog

def addProject (c : Catalog) (p : Project) (roots : List Component) : Catalog :=
  { c with forests := putEntry p.id roots c.forests, projects := putEntry p.name p c.projects }

def addEnvironment (c : Catalog) (e : Environment) : Catalog :=
  { c with environments := putEntry e.name e c.environments }

def setStatuses (c : Catalog) (environment : UInt64) (ss : List BuildStatus) : Catalog :=
  { c with statuses := putEntry environment ss c.statuses }

def addServer (c : Catalog) (environment : UInt64) (s : Server) : Catalog :=
  { c with servers := appendEntry environment s c.servers }

def addDatabase (c : Catalog) (environment : UInt64) (d : Database) : Catalog :=
  { c with databases := appendEntry environment d c.databases }

def addGrant (c : Catalog) (environment : UInt64) (g : DatabaseGrant) : Catalog :=
  { c with grants := appendEntry environment g c.grants }

def setFileShare (c : Catalog) (environment : UInt64) (path : String) : Catalog :=
  { c with fileShares := putEntry environment path c.fileShares }

def setConfigFile (c : Catalog) (environment : UInt64) (path : String) : Catalog :=
  { c with configFiles := putEntry environment path c.configFiles }

def roots (c : Catalog) (project : UInt64) : List Component :=
  (c.forests.lookup project).getD []

/-- Searches forest after forest. A forest that is too deep before a match ends the search. -/
def findComponent (name : String) : List (UInt64 × List Component) →
    Except Failure (Option Component)
  | [] => .ok none
  | (_, forest) :: rest =>
    match Component.findNamed Component.defaultMaxDepth name forest with
    | .ok none => findComponent name rest
    | answer => answer

def projectStore (c : Catalog) : ProjectStore where
  project name := .ok (c.projects.lookup name)
  roots id := .ok (c.roots id)
  component name := findComponent name c.forests

def environmentStore (c : Catalog) : EnvironmentStore where
  environment name := .ok (c.environments.lookup name)
  statuses id := .ok ((c.statuses.lookup id).getD [])

def topologyStore (c : Catalog) : TopologyStore where
  servers id := .ok ((c.servers.lookup id).getD [])
  databases id := .ok ((c.databases.lookup id).getD [])
  grants id := .ok ((c.grants.lookup id).getD [])

def pathStore (c : Catalog) : PathStore where
  fileShare e := .ok (c.fileShares.lookup e.id)
  configFile e := .ok (c.configFiles.lookup e.id)

end Catalog

end DeployPlan
