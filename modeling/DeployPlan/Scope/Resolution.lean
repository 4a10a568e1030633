import DeployPlan.Act
import DeployPlan.Scope.Variable
import DeployPlan.Stores
import DeployPlan.Text.Ascii

/-!
The variable scope of an environment, computed from its servers, databases and grants. Categories
without rows leave their variables unset.
-/

namespace DeployPlan

structure Scope where
  entries : List (String × Variable) := []
deriving DecidableEq, Repr, Inhabited

namespace Scope

def set (s : Scope) (name : String) (v : Variable) : Scope :=
  ⟨s.entries.filter (·.1 != name) ++ [(name, v)]⟩

def get? (s : Scope) (name : String) : Option Variable :=
  s.entries.lookup name

def setAll (s : Scope) (vs : List (String × Variable)) : Scope :=
  vs.foldl (fun s (n, v) => s.set n v) s

/-- The part of a variable's name that comes from a tag or type: trimmed, with underscores for
blanks. Blank tags have none. -/
def keyPart? (raw : String) : Option String :=
  let trimmed := Text.trim raw
  if trimmed.isEmpty then none else some (Text.replaceChar ' ' '_' trimmed)

/-- Collects values by key. Keys come in the order of their first occurrence. -/
def grouped {α : Type} : List (String × α) → List (String × List α)
  | [] => []
  | (k, a) :: rest =>
    (k, a :: (rest.filter (·.1 == k)).map (·.2)) :: (grouped rest).filter (·.1 != k)

/-- The names of the servers behind each tag, each name once. -/
def serversByTag (servers : List Server) : List (String × List String) :=
  (grouped (servers.flatMap fun s => (s.applicationTags.filterMap keyPart?).map (·, s.name))).map
    fun (tag, names) => (tag, names.eraseDups)

def daemonRecord (d : Daemon) : Record :=
  [("Name", .scalar d.name), ("DisplayName", .scalar d.displayName),
    ("Account", .scalar d.account), ("Type", .scalar d.daemonType)]

def serverRecord (s : Server) : Record :=
  [("Name", .scalar s.name), ("OsName", .scalar s.osName),
    ("ApplicationTags", .scalar (Text.join ", " s.applicationTags)),
    ("Daemons", .table (s.daemons.map daemonRecord))]

def serverVariables (servers : List Server) : List (String × Variable) :=
  if servers.isEmpty then []
  else
    ((serversByTag servers).flatMap fun (tag, names) =>
      (names.head?.toList.map fun n => ("Server_" ++ tag, .scalar n)) ++
        [("ServerNames_" ++ tag, .ofMatches names)]) ++
    [("ServerNames", .array (servers.map (·.name))),
      ("Servers", .table (servers.map serverRecord))]

/-- The databases of each type. -/
def databasesByType (databases : List Database) : List (String × List Database) :=
  grouped (databases.filterMap fun d => (keyPart? d.dbType).map (·, d))

def databaseVariables (databases : List Database) : List (String × Variable) :=
  (databasesByType databases).flatMap fun (dbType, ds) =>
    [("DbServer_" ++ dbType, .ofMatches (ds.map (·.server))),
      ("DbName_" ++ dbType, .ofMatches (ds.map (·.name)))]

/-- The users with grants on a database, in the order of their first grant, with their roles. -/
def usersOf (grants : List DatabaseGrant) (database : String) : List (String × List String) :=
  (grouped ((grants.filter (·.database == database)).map fun g => (g.user, g.roles))).map
    fun (user, roles) => (user, roles.flatten.eraseDups)

def permissionRecord (grants : List DatabaseGrant) (d : Database) : Record :=
  [("DatabaseName", .scalar d.name), ("DatabaseType", .scalar d.dbType),
    ("Users", .table ((usersOf grants d.name).map fun (user, roles) =>
      [("User", .scalar user), ("Roles", .array roles)]))]

def permissionVariables (databases : List Database) (grants : List DatabaseGrant) :
    List (String × Variable) :=
  if databases.isEmpty then []
  else [("DatabasePermissions", .table (databases.map (permissionRecord grants)))]

/-- The first database of a type; surrounding blanks and the case of basic letters do not count. -/
def findByType? (databases : List Database) (dbType : String) : Option Database :=
  databases.find? fun d => Text.sameIgnoringCase (Text.trim d.dbType) dbType

def usualBeginning : String := "Endur_"

def withoutBeginning (beginning s : String) : String :=
  if beginning.toList.isPrefixOf s.toList then
    String.ofList (s.toList.drop beginning.toList.length)
  else s

def shortcutPair (beginning : String) (d : Database) : List (String × Variable) :=
  [(beginning ++ "DbName", .scalar d.name), (beginning ++ "DbServer", .scalar d.server)]

/-- The name of the environment in the names of its things: that of its main database without the
usual beginning, else its own name with underscores for blanks. -/
def shortName (environment : Environment) (databases : List Database) : String :=
  match findByType? databases "Endur" with
  | some d => withoutBeginning usualBeginning d.name
  | none => Text.replaceChar ' ' '_' environment.name

def shortcutVariables (environment : Environment) (databases : List Database) :
    List (String × Variable) :=
  let pair (dbType beginning : String) :=
    ((findByType? databases dbType).toList.map (shortcutPair beginning)).flatten
  pair "Endur" "Endur" ++
    [("EnvironmentShortName", .scalar (shortName environment databases))] ++
    pair "Endur Reporting" "EndurReporting" ++ pair "Endur External" "EndurExternal"

def topologyVariables (environment : Environment) (servers : List Server)
    (databases : List Database) (grants : List DatabaseGrant) : List (String × Variable) :=
  [("EnvironmentName", .scalar environment.name)] ++ serverVariables servers ++
    databaseVariables databases ++ permissionVariables databases grants ++
    shortcutVariables environment databases

/-- Sets the variables of an environment. The topology is read first; a path that cannot be read
leaves what was set before it. -/
def resolve (topology : TopologyStore) (paths : PathStore) (environment : Environment) :
    Act Scope Unit := do
  let servers ← Act.ofExcept (topology.servers environment.id)
  let databases ← Act.ofExcept (topology.databases environment.id)
  let grants ← Act.ofExcept (topology.grants environment.id)
  Act.modify (·.setAll (topologyVariables environment servers databases grants))
  if let some path ← Act.ofExcept (paths.fileShare environment) then
    Act.modify (·.set "FileSharePath" (.scalar path))
  if let some path ← Act.ofExcept (paths.configFile environment) then
    Act.modify (·.set "ConfigFilePath" (.scalar path))
  Act.report (.scopeResolved servers.length databases.length)

end Scope

end DeployPlan
