import DeployPlan.Catalog
import DeployPlan.Outage
import DeployPlan.Proofs.Scope.Reads

/-!
Interruption. The first read that fails ends a resolution. A topology that cannot be read leaves the scope
as it was. The paths are read after the variables of the topology are set, so a path that cannot be read
leaves what a resolution without this path and the later one would have set.
-/

namespace DeployPlan

def PathStore.ofFileShare (path? : Option String) : PathStore where
  fileShare _ := .ok path?
  configFile _ := .ok none

namespace Scope

variable (topology : TopologyStore) (paths : PathStore) (environment : Environment) (s : Scope)

/-- How a resolution ends, by the first read that fails. -/
def ResolutionOutcome (outcome : Outcome Scope Unit) : Prop :=
  let without path? := (resolve topology (.ofFileShare path?) environment).run s
  match readRows topology environment with
  | .error e => outcome.result = .error e ∧ outcome.state = s
  | .ok _ =>
    match paths.fileShare environment with
    | .error e =>
      outcome.result = .error e ∧ (without none).result = .ok () ∧
        outcome.state = (without none).state
    | .ok path? =>
      match paths.configFile environment with
      | .error e =>
        outcome.result = .error e ∧ (without path?).result = .ok () ∧
          outcome.state = (without path?).state
      | .ok _ => outcome.result = .ok ()

theorem written_ofFileShare {rows : Rows} (read : readRows topology environment = .ok rows)
    (path? : Option String) :
    written topology (.ofFileShare path?) environment =
      rows.variables environment ++ pathVariables "FileSharePath" path? := by
  rw [written, read]
  simp only [PathStore.ofFileShare]
  exact congrArg (rows.variables environment ++ ·) (List.append_nil _)

/-- A failed resolution has set what comes before the read that failed, and nothing else. -/
theorem resolve_outcome :
    ResolutionOutcome topology paths environment s
      ((resolve topology paths environment).run s) := by
  unfold ResolutionOutcome
  simp only [result_resolve, state_resolve]
  cases read : readRows topology environment with
  | error e =>
    refine ⟨rfl, ?_⟩
    rw [written, read]
    rfl
  | ok rows =>
    simp only [written_ofFileShare topology environment read]
    cases fileShare : paths.fileShare environment with
    | error e =>
      refine ⟨rfl, rfl, ?_⟩
      rw [written, read, fileShare]
      rfl
    | ok path? =>
      simp only
      cases configFile : paths.configFile environment with
      | error e =>
        refine ⟨rfl, rfl, ?_⟩
        rw [written, read, fileShare, configFile]
        simp only [List.append_nil]
      | ok _ => rfl

/-- The file share cannot be asked for, and the names of the environment are set nevertheless. -/
theorem resolve_leaves_names :
    let environment : Environment := { id := 1, name := "E" }
    let outcome := (resolve ({} : Catalog).topologyStore
      (({} : Catalog).pathStore.without [.fileSharePath]) environment).run {}
    outcome.result = .error (.store "file_share_path unavailable") ∧
    outcome.state = ⟨[("EnvironmentName", .scalar "E"), ("EnvironmentShortName", .scalar "E")]⟩ ∧
    outcome.state ≠ {} :=
  ⟨rfl, by decide, by decide⟩

end Scope

end DeployPlan
