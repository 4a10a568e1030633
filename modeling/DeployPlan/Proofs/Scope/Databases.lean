import DeployPlan.Proofs.Scope.Values

/-!
Databases by type. The servers and the names of the databases of a type are two lists side by side: the
same databases, in the same order, and in the same shape. Every database with a type stands in one such
pair of lists and nowhere else.
-/

namespace DeployPlan.Scope

def databasesAt (databases : List Database) (key : String) : List Database :=
  databases.filter (keyPart? ·.dbType == some key)

def typeKeys (databases : List Database) : List String :=
  (databases.filterMap (keyPart? ·.dbType)).eraseDups

variable {databases : List Database} {key : String}

theorem mem_databasesAt_iff {d : Database} :
    d ∈ databasesAt databases key ↔ d ∈ databases ∧ keyPart? d.dbType = some key := by
  simp [databasesAt]

theorem mem_typeKeys_iff : key ∈ typeKeys databases ↔ ∃ d ∈ databases, keyPart? d.dbType = some key := by
  simp [typeKeys, List.mem_filterMap]

def typings (databases : List Database) : List (String × Database) :=
  databases.filterMap fun d => (keyPart? d.dbType).map (·, d)

theorem keys_typings (databases : List Database) :
    (typings databases).map (·.1) = databases.filterMap (keyPart? ·.dbType) := by
  rw [typings, List.map_filterMap]
  simp [Function.comp_def]

theorem valuesAt_typings (databases : List Database) (key : String) :
    valuesAt (typings databases) key = databasesAt databases key := by
  unfold valuesAt typings databasesAt
  induction databases with
  | nil => rfl
  | cons d databases ih =>
    cases given : keyPart? d.dbType with
    | none => simpa [given] using ih
    | some k => by_cases same : k = key <;> simpa [given, same] using ih

theorem databasesByType_eq (databases : List Database) :
    databasesByType databases = (typeKeys databases).map fun key => (key, databasesAt databases key) := by
  have grouped := grouped_eq (typings databases)
  rw [keys_typings] at grouped
  simp only [valuesAt_typings] at grouped
  exact grouped

theorem blank_eq_false_iff {raw : String} :
    Text.blank raw = false ↔ ∃ key, keyPart? raw = some key := by
  simp only [keyPart?_eq_some_iff, KeyOf]
  simp

theorem flatMap_databasesAt_perm (databases : List Database) :
    ((typeKeys databases).flatMap (databasesAt databases)).Perm
      (databases.filter (!Text.blank ·.dbType)) := by
  have distinct : ((typeKeys databases).map some).Nodup :=
    (nodup_eraseDups _).map fun _ _ => Option.some.inj
  -- A database whose type is not blank has one key, and `typeKeys` has it once.
  have perm := flatMap_filter_perm (fun d : Database => keyPart? d.dbType) distinct
    (l := databases.filter (!Text.blank ·.dbType)) fun d member => by
      obtain ⟨known, solid⟩ := List.mem_filter.mp member
      obtain ⟨key, given⟩ := blank_eq_false_iff.mp (by simpa using solid)
      exact List.mem_map.mpr ⟨key, mem_typeKeys_iff.mpr ⟨d, known, given⟩, given.symm⟩
  rw [List.flatMap_map] at perm
  have typed : ∀ key, (databases.filter (!Text.blank ·.dbType)).filter (keyPart? ·.dbType == some key) =
      databasesAt databases key := by
    intro key
    rw [List.filter_filter]
    apply List.filter_congr
    intro d _
    cases solid : Text.blank d.dbType with
    | false => simp
    | true =>
      have none : keyPart? d.dbType ≠ some key := fun given => by
        simp [blank_eq_false_iff.mpr ⟨key, given⟩] at solid
      simp [none]
  simpa only [typed] using perm

theorem mem_databaseVariables (typed : ∃ d ∈ databases, keyPart? d.dbType = some key) :
    ("DbServer_" ++ key, .ofMatches ((databasesAt databases key).map (·.server))) ∈
        databaseVariables databases ∧
      ("DbName_" ++ key, .ofMatches ((databasesAt databases key).map (·.name))) ∈
        databaseVariables databases := by
  have entry : (key, databasesAt databases key) ∈ databasesByType databases := by
    rw [databasesByType_eq]
    exact List.mem_map.mpr ⟨key, mem_typeKeys_iff.mpr typed, rfl⟩
  constructor <;> exact List.mem_flatMap.mpr ⟨_, entry, by simp⟩

variable {topology : TopologyStore} {paths : PathStore} {environment : Environment} {rows : Rows}

/-- After a resolution the servers and the names of the databases of every type stand side by side, and
every database that has a type stands in one place. -/
theorem databases_by_type (read : readRows topology environment = .ok rows) (s : Scope) :
    let value := ((resolve topology paths environment).run s).state.get?
    (∀ d ∈ rows.databases, ∀ key, keyPart? d.dbType = some key →
      let ds := databasesAt rows.databases key
      (∀ other, keyPart? other = some key ↔ Alike other d.dbType) ∧
      ((∃ server, value ("DbServer_" ++ key) = some (.scalar server)) ↔ ds.length = 1) ∧
      ((∃ name, value ("DbName_" ++ key) = some (.scalar name)) ↔ ds.length = 1) ∧
      (∀ one, ds = [one] → value ("DbServer_" ++ key) = some (.scalar one.server) ∧
        value ("DbName_" ++ key) = some (.scalar one.name)) ∧
      (ds.length ≠ 1 → 2 ≤ ds.length ∧
        value ("DbServer_" ++ key) = some (.array (ds.map (·.server))) ∧
        value ("DbName_" ++ key) = some (.array (ds.map (·.name))))) ∧
    (∀ d ∈ rows.databases, Text.blank d.dbType = false →
      ∃! key, d ∈ databasesAt rows.databases key) ∧
    ((typeKeys rows.databases).flatMap (databasesAt rows.databases)).Perm
      (rows.databases.filter (!Text.blank ·.dbType)) := by
  intro value
  have found : ∀ {name : String} {v : Variable}, (name, v) ∈ databaseVariables rows.databases →
      value name = some v := fun member =>
    get?_resolve_of_mem read (Rows.mem_variables_iff.mpr (.inr (.inr (.inl member)))) s
  refine ⟨?_, ?_, flatMap_databasesAt_perm _⟩
  · intro d known key given ds
    obtain ⟨servers, names⟩ := mem_databaseVariables ⟨d, known, given⟩
    have some : 0 < ds.length :=
      List.length_pos_of_mem (mem_databasesAt_iff.mpr ⟨known, given⟩)
    rw [found servers, found names]
    simp only [Option.some.injEq]
    refine ⟨keyPart?_eq_some_iff_alike given, ?_, ?_, ?_, ?_⟩
    · rw [Variable.exists_ofMatches_eq_scalar_iff, List.length_map]
    · rw [Variable.exists_ofMatches_eq_scalar_iff, List.length_map]
    · intro one same
      change Variable.ofMatches (ds.map _) = _ ∧ Variable.ofMatches (ds.map _) = _
      rw [same]
      exact ⟨rfl, rfl⟩
    · intro other
      rw [Variable.ofMatches_of_length_ne (by simpa using other),
        Variable.ofMatches_of_length_ne (by simpa using other)]
      exact ⟨by omega, rfl, rfl⟩
  · intro d known solid
    obtain ⟨key, given⟩ := blank_eq_false_iff.mp solid
    refine ⟨key, mem_databasesAt_iff.mpr ⟨known, given⟩, fun other member => ?_⟩
    exact Option.some.inj ((mem_databasesAt_iff.mp member).2.symm.trans given)

def payroll : List Database :=
  [⟨"PAY", "sql01", "Pay Roll"⟩, ⟨"MISC", "sql01", " "⟩, ⟨"REP", "sql02", "Reports"⟩,
    ⟨"PAY", "sql01", " Pay_Roll"⟩]

theorem databases_by_type_payroll :
    let environment : Environment := { id := 1, name := "UAT" }
    let catalog : Catalog := payroll.foldl (·.addDatabase 1 ·) {}
    let value s := ((resolve catalog.topologyStore catalog.pathStore environment).run s).state.get?
    readRows catalog.topologyStore environment = .ok ⟨[], payroll, []⟩ ∧
    ∀ s, value s "DbServer_Pay_Roll" = some (.array ["sql01", "sql01"]) ∧
      value s "DbName_Pay_Roll" = some (.array ["PAY", "PAY"]) ∧
      value s "DbServer_Reports" = some (.scalar "sql02") ∧
      value s "DbName_Reports" = some (.scalar "REP") := by
  intro environment catalog value
  have read : readRows catalog.topologyStore environment = .ok ⟨[], payroll, []⟩ := rfl
  refine ⟨read, fun s => ?_⟩
  obtain ⟨typed, -⟩ := @databases_by_type _ catalog.pathStore _ _ read s
  have pay : databasesAt payroll "Pay_Roll" = [payroll[0], payroll[3]] := by decide
  have reports : databasesAt payroll "Reports" = [payroll[2]] := by decide
  obtain ⟨-, -, -, -, several⟩ := typed payroll[0] (by simp [payroll]) "Pay_Roll" (by decide)
  obtain ⟨-, -, -, one, -⟩ := typed payroll[2] (by simp [payroll]) "Reports" (by decide)
  simp only [pay] at several
  obtain ⟨-, servers, names⟩ := several (by decide)
  exact ⟨servers, names, one _ reports⟩

end DeployPlan.Scope
