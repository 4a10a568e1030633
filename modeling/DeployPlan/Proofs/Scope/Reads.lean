import DeployPlan.Proofs.Scope.Writes

/-!
What a resolution reads and writes. The reads do not depend on the variables that are there, so neither
does the result, nor what is set: the variables of the topology first, then those of the paths, up to
the first read that fails.
-/

namespace DeployPlan.Scope

structure Rows where
  servers : List Server
  databases : List Database
  grants : List DatabaseGrant

def readRows (topology : TopologyStore) (environment : Environment) : Except Failure Rows := do
  let servers ← topology.servers environment.id
  let databases ← topology.databases environment.id
  let grants ← topology.grants environment.id
  return ⟨servers, databases, grants⟩

def Rows.variables (rows : Rows) (environment : Environment) : List (String × Variable) :=
  topologyVariables environment rows.servers rows.databases rows.grants

def pathVariables (name : String) (path? : Option String) : List (String × Variable) :=
  path?.toList.map fun path => (name, .scalar path)

section

variable (topology : TopologyStore) (paths : PathStore) (environment : Environment)

def written : List (String × Variable) :=
  match readRows topology environment with
  | .error _ => []
  | .ok rows => rows.variables environment ++
    match paths.fileShare environment with
    | .error _ => []
    | .ok fileShare? => pathVariables "FileSharePath" fileShare? ++
      match paths.configFile environment with
      | .error _ => []
      | .ok configFile? => pathVariables "ConfigFilePath" configFile?

theorem resolve_spec (s : Scope) :
    ((resolve topology paths environment).run s).result = (do
      let _ ← readRows topology environment
      let _ ← paths.fileShare environment
      let _ ← paths.configFile environment
      return ()) ∧
    ((resolve topology paths environment).run s).state =
      s.setAll (written topology paths environment) := by
  unfold resolve written readRows
  cases topology.servers environment.id with
  | error e => exact ⟨rfl, rfl⟩
  | ok servers =>
    cases topology.databases environment.id with
    | error e => exact ⟨rfl, rfl⟩
    | ok databases =>
      cases topology.grants environment.id with
      | error e => exact ⟨rfl, rfl⟩
      | ok grants =>
        -- From here on variables have been set, and a read that fails leaves them.
        simp only [Bind.bind, Except.bind, Pure.pure, Except.pure, setAll_append]
        cases paths.fileShare environment with
        | error e => exact ⟨rfl, rfl⟩
        | ok fileShare? =>
          simp only [setAll_append]
          cases fileShare? <;> cases paths.configFile environment with
          | error e => exact ⟨rfl, rfl⟩
          | ok configFile? => cases configFile? <;> exact ⟨rfl, rfl⟩

theorem result_resolve (s : Scope) :
    ((resolve topology paths environment).run s).result = (do
      let _ ← readRows topology environment
      let _ ← paths.fileShare environment
      let _ ← paths.configFile environment
      return ()) :=
  (resolve_spec topology paths environment s).1

theorem state_resolve (s : Scope) :
    ((resolve topology paths environment).run s).state =
      s.setAll (written topology paths environment) :=
  (resolve_spec topology paths environment s).2

end

end DeployPlan.Scope
