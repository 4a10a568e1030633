import DeployPlan.Proofs.Scope.Values

/-!
Permissions by user. Every database has a row with its users, each of them once and with the roles of all
their grants on this database, whatever the order in which the grants are listed. Without databases there
is no table, and an older one is left in place.
-/

namespace DeployPlan.Scope

def grantees (grants : List DatabaseGrant) (database : String) : List String :=
  ((grants.filter (·.database == database)).map (·.user)).eraseDups

def rolesOf (grants : List DatabaseGrant) (database user : String) : List String :=
  ((grants.filter fun g => g.database == database && g.user == user).flatMap (·.roles)).eraseDups

def permissionRow (grants : List DatabaseGrant) (d : Database) : Record :=
  [("DatabaseName", .scalar d.name), ("DatabaseType", .scalar d.dbType),
    ("Users", .table ((grantees grants d.name).map fun user =>
      [("User", .scalar user), ("Roles", .array (rolesOf grants d.name user))]))]

variable {grants : List DatabaseGrant} {database user : String}

theorem mem_grantees_iff :
    user ∈ grantees grants database ↔ ∃ g ∈ grants, g.database = database ∧ g.user = user := by
  simp [grantees, and_assoc]

theorem mem_rolesOf_iff {role : String} :
    role ∈ rolesOf grants database user ↔
      ∃ g ∈ grants, g.database = database ∧ g.user = user ∧ role ∈ g.roles := by
  simp [rolesOf, and_assoc]

theorem rolesOf_eq_nil_iff :
    rolesOf grants database user = [] ↔
      ∀ g ∈ grants, g.database = database → g.user = user → g.roles = [] := by
  simp [rolesOf, eraseDups_eq_nil_iff]

theorem usersOf_eq (grants : List DatabaseGrant) (database : String) :
    usersOf grants database =
      (grantees grants database).map fun user => (user, rolesOf grants database user) := by
  unfold usersOf
  rw [grouped_eq, List.map_map, List.map_map]
  apply List.map_congr_left
  intro user _
  have own : valuesAt ((grants.filter (·.database == database)).map fun g => (g.user, g.roles)) user =
      (grants.filter fun g => g.database == database && g.user == user).map (·.roles) := by
    rw [valuesAt, List.filter_map, List.map_map, List.filter_filter]
    simp only [Function.comp_def, Bool.and_comm]
  simp only [Function.comp_apply, own, rolesOf, List.flatMap_def]

theorem permissionRecord_eq (grants : List DatabaseGrant) (d : Database) :
    permissionRecord grants d = permissionRow grants d := by
  rw [permissionRecord, permissionRow, usersOf_eq, List.map_map]
  rfl

variable {topology : TopologyStore} {paths : PathStore} {environment : Environment} {rows : Rows}

/-- After a resolution the table of permissions has a row for each database, with the users that have a
grant on it and the roles of these grants. -/
theorem permissions_by_user (read : readRows topology environment = .ok rows) (s : Scope) :
    let value := ((resolve topology paths environment).run s).state.get?
    (rows.databases ≠ [] →
      value "DatabasePermissions" = some (.table (rows.databases.map (permissionRow rows.grants)))) ∧
    (rows.databases = [] → value "DatabasePermissions" = s.get? "DatabasePermissions") ∧
    ∀ d ∈ rows.databases,
      (grantees rows.grants d.name).Nodup ∧
      (∀ user, user ∈ grantees rows.grants d.name ↔
        ∃ g ∈ rows.grants, g.database = d.name ∧ g.user = user) ∧
      ∀ user ∈ grantees rows.grants d.name,
        (rolesOf rows.grants d.name user).Nodup ∧
        (∀ role, role ∈ rolesOf rows.grants d.name user ↔
          ∃ g ∈ rows.grants, g.database = d.name ∧ g.user = user ∧ role ∈ g.roles) ∧
        (rolesOf rows.grants d.name user = [] ↔
          ∀ g ∈ rows.grants, g.database = d.name → g.user = user → g.roles = []) := by
  intro value
  refine ⟨fun some => ?_, fun none => ?_, fun d _ => ?_⟩
  · apply get?_resolve_of_mem read
    refine Rows.mem_variables_iff.mpr (.inr (.inr (.inr (.inl ?_))))
    unfold permissionVariables
    have same : permissionRecord rows.grants = permissionRow rows.grants :=
      funext (permissionRecord_eq rows.grants)
    rw [if_neg (by simpa using some), same]
    exact List.mem_singleton_self _
  · apply get?_resolve_of_not_sets read (.single .databasePermissions)
    rintro facts rfl due
    exact due none
  · exact ⟨nodup_eraseDups _, fun user => mem_grantees_iff, fun user _ =>
      ⟨nodup_eraseDups _, fun role => mem_rolesOf_iff, rolesOf_eq_nil_iff⟩⟩

def alternating : List DatabaseGrant :=
  [⟨"PAY", "svc", ["reader"]⟩, ⟨"LOG", "svc", ["owner"]⟩, ⟨"PAY", "ops", []⟩,
    ⟨"PAY", "svc", ["writer", "reader"]⟩]

theorem permissions_by_user_alternating :
    let environment : Environment := { id := 1, name := "UAT" }
    let databases : List Database := [⟨"PAY", "sql01", " Pay Roll "⟩]
    let catalog : Catalog := alternating.foldl (·.addGrant 1 ·) (databases.foldl (·.addDatabase 1 ·) {})
    let value s := ((resolve catalog.topologyStore catalog.pathStore environment).run s).state.get?
    readRows catalog.topologyStore environment = .ok ⟨[], databases, alternating⟩ ∧ databases ≠ [] ∧
    ∀ s, value s "DatabasePermissions" = some (.table [
      [("DatabaseName", .scalar "PAY"), ("DatabaseType", .scalar " Pay Roll "),
        ("Users", .table [
          [("User", .scalar "svc"), ("Roles", .array ["reader", "writer"])],
          [("User", .scalar "ops"), ("Roles", .array [])]])]]) := by
  intro environment databases catalog value
  have read : readRows catalog.topologyStore environment = .ok ⟨[], databases, alternating⟩ := rfl
  have some : databases ≠ [] := by decide
  refine ⟨read, some, fun s => ?_⟩
  have table := (@permissions_by_user _ catalog.pathStore _ _ read s).1 some
  have row : permissionRow alternating ⟨"PAY", "sql01", " Pay Roll "⟩ =
      [("DatabaseName", .scalar "PAY"), ("DatabaseType", .scalar " Pay Roll "),
        ("Users", .table [
          [("User", .scalar "svc"), ("Roles", .array ["reader", "writer"])],
          [("User", .scalar "ops"), ("Roles", .array [])]])] := by decide
  exact table.trans (by rw [← row]; rfl)

/-- An environment without databases has no table of permissions of its own: none is set, and that of the
environment resolved before it stays. -/
theorem permissions_left :
    let catalog : Catalog := ({} : Catalog).addDatabase 1 ⟨"PAY", "sql01", "Payments"⟩
    let after (id : UInt64) (s : Scope) :=
      ((resolve catalog.topologyStore catalog.pathStore { id := id, name := "UAT" }).run s).state
    catalog.topologyStore.databases 2 = .ok [] ∧
    (after 2 {}).get? "DatabasePermissions" = none ∧
    ∃ row, (after 2 (after 1 {})).get? "DatabasePermissions" = some (.table [row]) :=
  ⟨rfl, by decide, permissionRow [] ⟨"PAY", "sql01", "Payments"⟩, by decide⟩

end DeployPlan.Scope
