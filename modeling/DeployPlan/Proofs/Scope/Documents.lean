import DeployPlan.Proofs.Document.Variable
import DeployPlan.Proofs.Scope.Reads

/-!
Scopes as documents. A resolution sets variables of few levels whatever the topology, so each of them is
read back from its document.
-/

namespace DeployPlan

open Json (Decoder Spells Value)

/-- What is written is read back: from its text in one line, from its indented text, and from every other
text of one of its forms. -/
structure ReadBack {α : Type} (decoder : Decoder α) (Form : Value → Prop) (a : α) (written : Value) :
    Prop where
  compact : Json.decodeText decoder written.compactText = .ok a
  indented : Json.decodeText decoder written.indentedText = .ok a
  every_form : ∀ form, Form form → ∀ text : String, Spells form text.toList →
    Json.decodeText decoder text = .ok a

theorem ReadBack.of_forms {α : Type} {decoder : Decoder α} {Form : Value → Prop} {a : α} {written : Value}
    (numberless : written.Numberless) (formed : Form written)
    (decoded : ∀ form, Form form → ∀ text : String, Spells form text.toList →
      Json.decodeText decoder text = .ok a) : ReadBack decoder Form a written where
  compact := decoded written formed _ (Json.spells_compactText numberless.legal)
  indented := decoded written formed _ (Json.spells_indentedText numberless.legal)
  every_form := decoded

def Variable.IsReadBack (v : Variable) : Prop :=
  ReadBack decoder (Written v) v v.json

def Record.IsReadBack (r : Record) : Prop :=
  ReadBack decoder (Written r) r r.json

theorem Variable.isReadBack {v : Variable} (low : v.json.nesting ≤ 127) : v.IsReadBack :=
  .of_forms (written_json v).numberless (written_json v) fun _ written _ spells =>
    written.decodeText (Nat.lt_succ_of_le low) spells

theorem Record.isReadBack {r : Record} (low : r.json.nesting ≤ 127) : r.IsReadBack :=
  .of_forms (written_json r).numberless (written_json r) fun _ written _ spells =>
    written.decodeText (Nat.lt_succ_of_le low) spells

/- How deep values nest. -/

namespace Variable

theorem jsonOfFields_eq (r : Record) : jsonOfFields r = r.map fun f => .list [.text f.1, f.2.json] := by
  induction r with
  | nil => rfl
  | cons f r ih => rw [jsonOfFields, ih, List.map_cons]

theorem jsonOfRows_eq (rows : List Record) : jsonOfRows rows = rows.map Record.json := by
  induction rows with
  | nil => rfl
  | cons r rows ih =>
    rw [jsonOfRows, ih, List.map_cons]
    rfl

theorem nesting_scalar (s : String) : (scalar s).json.nesting = 1 := rfl

theorem nesting_array (ss : List String) : (array ss).json.nesting = 2 := by
  have flat : Value.nestingOfItems (ss.map .text) ≤ 0 :=
    Value.nestingOfItems_le_iff.mpr (List.forall_mem_map.mpr fun _ _ => Nat.le_refl 0)
  simp only [json, Value.texts, Value.listOf, Value.nesting, Value.nestingOfMembers, Nat.le_zero.mp flat]
  rfl

theorem nesting_ofMatches_le (ss : List String) : (ofMatches ss).json.nesting ≤ 2 := by
  unfold ofMatches
  split
  · exact Nat.le_succ 1
  · exact Nat.le_of_eq (nesting_array _)

theorem nesting_record_le {r : Record} {n : Nat} (low : ∀ f ∈ r, f.2.json.nesting ≤ n) :
    r.json.nesting ≤ n + 3 := by
  have fields : Value.nestingOfItems (jsonOfFields r) ≤ n + 1 := by
    rw [jsonOfFields_eq, Value.nestingOfItems_le_iff, List.forall_mem_map]
    intro f member
    have := low f member
    simp only [Value.nesting, Value.nestingOfItems]
    omega
  simp only [Record.json, Value.nesting, Value.nestingOfMembers]
  omega

theorem nesting_table_le {rows : List Record} {n : Nat} (low : ∀ r ∈ rows, r.json.nesting ≤ n) :
    (table rows).json.nesting ≤ n + 2 := by
  have items : Value.nestingOfItems (jsonOfRows rows) ≤ n := by
    rwa [jsonOfRows_eq, Value.nestingOfItems_le_iff, List.forall_mem_map]
  simp only [json, Value.nesting, Value.nestingOfMembers]
  omega

end Variable

namespace Scope

open Variable

theorem nesting_serverRecord_le (server : Server) : (serverRecord server).json.nesting ≤ 9 := by
  have daemon : ∀ d : Daemon, (daemonRecord d).json.nesting ≤ 4 := fun d =>
    nesting_record_le (by simp [daemonRecord, nesting_scalar])
  have daemons : (table (server.daemons.map daemonRecord)).json.nesting ≤ 6 :=
    nesting_table_le (List.forall_mem_map.mpr fun d _ => daemon d)
  refine nesting_record_le ?_
  simpa [serverRecord, nesting_scalar] using daemons

theorem nesting_permissionRecord_le (grants : List DatabaseGrant) (database : Database) :
    (permissionRecord grants database).json.nesting ≤ 10 := by
  have users : ∀ rows : List (String × List String),
      (table (rows.map fun row => [("User", scalar row.1), ("Roles", array row.2)])).json.nesting ≤ 7 :=
    fun rows => nesting_table_le (List.forall_mem_map.mpr fun row _ =>
      nesting_record_le (by simp [nesting_scalar, nesting_array]))
  refine nesting_record_le ?_
  simpa [permissionRecord, nesting_scalar] using users _

variable {environment : Environment} {servers : List Server} {databases : List Database}
  {grants : List DatabaseGrant} {entry : String × Variable}

theorem nesting_serverVariables_le (member : entry ∈ serverVariables servers) :
    entry.2.json.nesting ≤ 11 := by
  unfold serverVariables at member
  split at member
  · cases member
  · simp only [List.mem_append, List.mem_flatMap, List.mem_map, List.mem_cons, List.not_mem_nil,
      or_false] at member
    rcases member with ⟨tagged, -, ⟨n, -, rfl⟩ | rfl⟩ | rfl | rfl
    · simp [nesting_scalar]
    · exact Nat.le_trans (nesting_ofMatches_le _) (by decide)
    · simp [nesting_array]
    · exact nesting_table_le (List.forall_mem_map.mpr fun server _ => nesting_serverRecord_le server)

theorem nesting_databaseVariables_le (member : entry ∈ databaseVariables databases) :
    entry.2.json.nesting ≤ 2 := by
  simp only [databaseVariables, List.mem_flatMap, List.mem_cons, List.not_mem_nil, or_false] at member
  obtain ⟨family, -, rfl | rfl⟩ := member <;> exact nesting_ofMatches_le _

theorem nesting_permissionVariables_le (member : entry ∈ permissionVariables databases grants) :
    entry.2.json.nesting ≤ 12 := by
  unfold permissionVariables at member
  split at member
  · cases member
  · cases List.mem_singleton.mp member
    exact nesting_table_le
      (List.forall_mem_map.mpr fun database _ => nesting_permissionRecord_le grants database)

theorem nesting_shortcutVariables_le (member : entry ∈ shortcutVariables environment databases) :
    entry.2.json.nesting ≤ 1 := by
  simp only [shortcutVariables, shortcutPair, List.mem_append, List.mem_flatten, List.mem_map,
    List.mem_singleton] at member
  have pairs : ∀ {dbType beginning : String}, (∃ l, (∃ d ∈ (findByType? databases dbType).toList,
      [(beginning ++ "DbName", scalar d.name), (beginning ++ "DbServer", scalar d.server)] = l) ∧
        entry ∈ l) → entry.2.json.nesting ≤ 1 := by
    rintro dbType beginning ⟨_, ⟨d, -, rfl⟩, member⟩
    simp only [List.mem_cons, List.not_mem_nil, or_false] at member
    obtain rfl | rfl := member <;> exact Nat.le_refl 1
  rcases member with ((main | rfl) | reporting) | external
  · exact pairs main
  · exact Nat.le_refl 1
  · exact pairs reporting
  · exact pairs external

theorem nesting_pathVariables_le {name : String} {path? : Option String}
    (member : entry ∈ pathVariables name path?) : entry.2.json.nesting ≤ 1 := by
  obtain ⟨path, -, rfl⟩ := List.mem_map.mp member
  exact Nat.le_refl 1

theorem nesting_topologyVariables_le
    (member : entry ∈ topologyVariables environment servers databases grants) :
    entry.2.json.nesting ≤ 12 := by
  simp only [topologyVariables, List.mem_append, List.mem_singleton] at member
  rcases member with (((rfl | server) | database) | permission) | shortcut
  · simp [nesting_scalar]
  · exact Nat.le_trans (nesting_serverVariables_le server) (by decide)
  · exact Nat.le_trans (nesting_databaseVariables_le database) (by decide)
  · exact nesting_permissionVariables_le permission
  · exact Nat.le_trans (nesting_shortcutVariables_le shortcut) (by decide)

theorem nesting_written_le {topology : TopologyStore} {paths : PathStore}
    (member : entry ∈ written topology paths environment) : entry.2.json.nesting ≤ 12 := by
  have path : ∀ {name : String} {path? : Option String}, entry ∈ pathVariables name path? →
      entry.2.json.nesting ≤ 12 :=
    fun member => Nat.le_trans (nesting_pathVariables_le member) (by decide)
  unfold written at member
  split at member
  · cases member
  · rcases List.mem_append.mp member with known | later
    · exact nesting_topologyVariables_le known
    · split at later
      · cases later
      · rcases List.mem_append.mp later with fileShare | later
        · exact path fileShare
        · split at later
          · cases later
          · exact path later

end Scope

/-- Every variable and every record of at most 127 levels is read back from its document. The variables
that a resolution sets, in any scope and for any topology, are among them. -/
theorem variables_read_back :
    (∀ v : Variable, v.json.nesting ≤ 127 → v.IsReadBack) ∧
      (∀ r : Record, r.json.nesting ≤ 127 → r.IsReadBack) ∧
      ∀ (topology : TopologyStore) (paths : PathStore) (environment : Environment) (s : Scope),
        ((Scope.resolve topology paths environment).run s).state =
            s.setAll (Scope.written topology paths environment) ∧
          ∀ entry ∈ Scope.written topology paths environment, entry.2.IsReadBack := by
  refine ⟨fun _ => Variable.isReadBack, fun _ => Record.isReadBack, fun topology paths environment s => ?_⟩
  refine ⟨Scope.state_resolve topology paths environment s, fun entry member => ?_⟩
  exact Variable.isReadBack (Nat.le_trans (Scope.nesting_written_le member) (by decide))

namespace Variable

def tables : Nat → Variable
  | 0 => .array []
  | n + 1 => .table [[("Row", .scalar "above"), ("Row", tables n)]]

theorem nesting_tables (n : Nat) : (tables n).json.nesting = 5 * n + 2 := by
  induction n with
  | zero => rfl
  | succ n ih =>
    simp only [tables, json, jsonOfRows, jsonOfFields, Value.nesting, Value.nestingOfMembers,
      Value.nestingOfItems, ih]
    omega

def swappedTable : Value :=
  tagged true .table (.list [.object [("fields", .list
    [.list [.text "Row", tagged false .scalar (.text "above")],
      .list [.text "Row", tagged true .array (.texts [])]])]])

theorem written_swappedTable : Written (tables 1) swappedTable :=
  .table true (.cons (.cons "Row" (.scalar false "above") (.cons "Row" (.array true []) .nil)) .nil)

theorem read_back_tables :
    (tables 25).json.nesting = 127 ∧
      Json.decodeText decoder (tables 25).json.compactText = .ok (tables 25) ∧
      Json.decodeText decoder swappedTable.compactText = .ok (tables 1) ∧
      Json.decodeText Record.decoder (Record.json [("Row", tables 24), ("Row", tables 0)]).compactText =
        .ok [("Row", tables 24), ("Row", tables 0)] := by
  have deepest : (tables 25).json.nesting = 127 := nesting_tables 25
  have spells : Spells swappedTable swappedTable.compactText.toList :=
    Json.spells_compactText written_swappedTable.numberless.legal
  have fields : (Record.json [("Row", tables 24), ("Row", tables 0)]).nesting ≤ 125 :=
    nesting_record_le (by simp [nesting_tables])
  refine ⟨deepest, (variables_read_back.1 _ (Nat.le_of_eq deepest)).compact, ?_, ?_⟩
  · have low : (tables 1).json.nesting ≤ 127 := by
      rw [nesting_tables]
      decide
    exact (variables_read_back.1 _ low).every_form _ written_swappedTable _ spells
  · exact (variables_read_back.2.1 _ (Nat.le_trans fields (by decide))).compact

end Variable

end DeployPlan
