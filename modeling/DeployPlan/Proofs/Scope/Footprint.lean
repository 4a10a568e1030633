import DeployPlan.Catalog
import DeployPlan.Proofs.Scope.Facts
import DeployPlan.Proofs.Steps

/-!
The footprint of a resolution. What is known about an environment settles which variables are set and to
what; whatever the scope was before, each of them is set once and all others keep their values. A second
resolution changes nothing.
-/

namespace DeployPlan.Scope

variable {topology : TopologyStore} {paths : PathStore} {environment : Environment} {facts : Facts}

theorem Facts.nodup_names (facts : Facts) (environment : Environment) :
    ((facts.assignments environment).map (·.1)).Nodup := by
  rw [names_assignments]
  exact facts.nodup_keys.map fun _ _ => Key.text_injective

theorem Facts.mem_names_iff (facts : Facts) (environment : Environment) {name : String} :
    name ∈ (facts.assignments environment).map (·.1) ↔ ∃ k, facts.Sets k ∧ k.text = name := by
  rw [names_assignments, List.mem_map]
  simp only [mem_keys_iff]

theorem exists_read {s : Scope}
    (resolved : ((resolve topology paths environment).run s).result = .ok ()) :
    ∃ facts : Facts, facts.Read topology paths environment := by
  rw [result_resolve] at resolved
  obtain ⟨rows, rows_read, resolved⟩ := bind_eq_ok_iff.mp resolved
  obtain ⟨fileShare?, fileShare_read, resolved⟩ := bind_eq_ok_iff.mp resolved
  obtain ⟨configFile?, configFile_read, -⟩ := bind_eq_ok_iff.mp resolved
  exact ⟨⟨rows, fileShare?, configFile?⟩, rows_read, fileShare_read, configFile_read⟩

namespace Facts.Read

variable (read : facts.Read topology paths environment)

include read

theorem written_eq : written topology paths environment = facts.assignments environment := by
  rw [written, read.rows, read.fileShare, read.configFile]
  simp [assignments, Topic.all, variablesOf, Rows.variables, topologyVariables]

theorem result_eq (s : Scope) : ((resolve topology paths environment).run s).result = .ok () := by
  rw [result_resolve, read.rows, read.fileShare, read.configFile]
  rfl

theorem state_eq (s : Scope) :
    ((resolve topology paths environment).run s).state = s.setAll (facts.assignments environment) := by
  rw [state_resolve, read.written_eq]

theorem get?_of_sets {k : Key} (due : facts.Sets k) :
    ∃ v, ∀ s, ((resolve topology paths environment).run s).state.get? k.text = some v := by
  obtain ⟨⟨name, v⟩, member, rfl⟩ :=
    List.mem_map.mp ((facts.mem_names_iff environment).mpr ⟨k, due, rfl⟩)
  refine ⟨v, fun s => ?_⟩
  rw [read.state_eq]
  exact get?_setAll_of_mem (facts.nodup_names environment) member

theorem get?_of_not_sets {name : String} (other : ∀ k, facts.Sets k → k.text ≠ name) (s : Scope) :
    ((resolve topology paths environment).run s).state.get? name = s.get? name := by
  rw [read.state_eq]
  refine get?_setAll_of_not_mem fun set => ?_
  obtain ⟨k, due, same⟩ := (facts.mem_names_iff environment).mp set
  exact other k due same

end Facts.Read

/-- A resolution that ends well sets each variable that is due once, to a value of its own, and touches
no other one. -/
theorem resolve_footprint (topology : TopologyStore) (paths : PathStore) (environment : Environment)
    (s₀ : Scope) (resolved : ((resolve topology paths environment).run s₀).result = .ok ()) :
    let after := fun s => ((resolve topology paths environment).run s).state
    (∀ k l : Key, k.text = l.text → k = l) ∧
    ∃ facts : Facts, facts.Read topology paths environment ∧
      ((facts.assignments environment).map (·.1)).Nodup ∧
      (∀ s, after s = s.setAll (facts.assignments environment)) ∧
      (∀ k, facts.Sets k → ∃ v, ∀ s, (after s).get? k.text = some v) ∧
      (∀ s name, (∀ k, facts.Sets k → k.text ≠ name) → (after s).get? name = s.get? name) ∧
      ∀ s, ((resolve topology paths environment).run (after s)).result = .ok () ∧
        after (after s) = after s := by
  intro after
  obtain ⟨facts, read⟩ := exists_read resolved
  refine ⟨fun k l => Key.text_injective, facts, read, facts.nodup_names environment, read.state_eq,
    fun k due => read.get?_of_sets due, fun s name other => read.get?_of_not_sets other s, ?_⟩
  intro s
  refine ⟨read.result_eq _, ?_⟩
  simp only [after, read.state_eq]
  exact setAll_setAll (facts.nodup_names environment)

def estate : Catalog :=
  ({} : Catalog).addServer 1 ⟨"app01", "Linux", [" ", "App Server"], []⟩
    |>.addDatabase 1 ⟨"Endur_UAT", "sql01", " endur "⟩
    |>.setFileShare 1 "/share/uat"

def estateFacts : Facts where
  servers := [⟨"app01", "Linux", [" ", "App Server"], []⟩]
  databases := [⟨"Endur_UAT", "sql01", " endur "⟩]
  grants := []
  fileShare? := some "/share/uat"
  configFile? := none

theorem resolve_footprint_estate :
    let environment : Environment := { id := 1, name := "UAT" }
    let outcome := (resolve estate.topologyStore estate.pathStore environment).run
    (outcome {}).result = .ok () ∧
    (∃ v, ∀ s, (outcome s).state.get? "Server_App_Server" = some v) ∧
    (∃ v, ∀ s, (outcome s).state.get? "EndurDbName" = some v) ∧
    (∀ s, (outcome s).state.get? "Server_" = s.get? "Server_") ∧
    (∀ s, (outcome s).state.get? "ConfigFilePath" = s.get? "ConfigFilePath") ∧
    ∀ s, (outcome (outcome s).state).state = (outcome s).state := by
  intro environment outcome
  have resolved : (outcome {}).result = .ok () := rfl
  obtain ⟨-, facts, read, -, -, sets, others, again⟩ := resolve_footprint _ _ _ _ resolved
  have known : facts = estateFacts := by
    obtain ⟨rows, fileShare?, configFile?⟩ := facts
    have rows_read := Except.ok.inj read.rows
    have fileShare_read := Except.ok.inj read.fileShare
    have configFile_read := Except.ok.inj read.configFile
    simp only at rows_read fileShare_read configFile_read
    subst rows_read fileShare_read configFile_read
    rfl
  subst known
  refine ⟨resolved, ?_, ?_, ?_, ?_, fun s => (again s).2⟩
  · exact sets (.tagged .server "App_Server")
      ⟨_, List.mem_singleton_self _, "App Server", by decide, by decide⟩
  · exact sets (.single (.dbName .endur)) ⟨_, List.mem_singleton_self _, by decide⟩
  · refine fun s => others s _ fun k due same => ?_
    cases Key.text_injective (l := .tagged .server "") same
    have blank : ∀ server ∈ estateFacts.servers, ∀ tag ∈ server.applicationTags, ¬ KeyOf tag "" := by
      decide
    obtain ⟨server, known, tag, tagged, key⟩ := due
    exact blank server known tag tagged key
  · refine fun s => others s _ fun k due same => ?_
    cases Key.text_injective (l := .single .configFilePath) same
    exact due rfl

end DeployPlan.Scope
