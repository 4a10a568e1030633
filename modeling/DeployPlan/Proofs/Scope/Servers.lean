import DeployPlan.Proofs.Scope.Values

/-!
Servers by tag. Whichever way a tag is spelled, and however often a server or its name occurs, the
servers of a tag are listed by name, each name once; scripts may tell one server from several by the
shape of the variable.
-/

namespace DeployPlan.Scope

/-- One of the tags of the server has this key. -/
def Tagged (server : Server) (key : String) : Prop :=
  ∃ tag ∈ server.applicationTags, keyPart? tag = some key

instance (server : Server) (key : String) : Decidable (Tagged server key) :=
  inferInstanceAs (Decidable (∃ tag ∈ server.applicationTags, keyPart? tag = some key))

def taggedNames (servers : List Server) (key : String) : List String :=
  ((servers.filter (Tagged · key)).map (·.name)).eraseDups

variable {servers : List Server} {key : String}

theorem mem_taggedNames_iff {name : String} :
    name ∈ taggedNames servers key ↔ ∃ server ∈ servers, Tagged server key ∧ server.name = name := by
  simp only [taggedNames, List.mem_eraseDups, List.mem_map, List.mem_filter, decide_eq_true_eq,
    and_assoc]

def taggings (servers : List Server) : List (String × String) :=
  servers.flatMap fun server => (server.applicationTags.filterMap keyPart?).map (·, server.name)

theorem keys_taggings (servers : List Server) :
    (taggings servers).map (·.1) =
      servers.flatMap fun server => server.applicationTags.filterMap keyPart? := by
  rw [taggings, List.map_flatMap]
  simp [Function.comp_def]

theorem valuesAt_of_server (server : Server) (key : String) :
    (valuesAt ((server.applicationTags.filterMap keyPart?).map (·, server.name)) key).eraseDups =
      (if Tagged server key then [server.name] else []).eraseDups := by
  let found := (server.applicationTags.filterMap keyPart?).filter (· == key)
  have same : valuesAt ((server.applicationTags.filterMap keyPart?).map (·, server.name)) key =
      List.replicate found.length server.name := by
    rw [valuesAt, List.filter_map, List.map_map, ← List.map_const]
    rfl
  have some_iff : Tagged server key ↔ found ≠ [] := by
    simp [Tagged, found, List.filter_eq_nil_iff, List.mem_filterMap]
  rw [same]
  by_cases tagged : Tagged server key
  · obtain ⟨first, more, present⟩ := List.exists_cons_of_ne_nil (some_iff.mp tagged)
    rw [if_pos tagged, present, List.length_cons, eraseDups_replicate_succ,
      eraseDups_of_nodup (List.nodup_singleton _)]
  · have none : found = [] := by simpa [some_iff] using tagged
    rw [if_neg tagged, none]
    rfl

theorem filter_tagged_eq (servers : List Server) (key : String) :
    (servers.filter (Tagged · key)).map (·.name) =
      servers.flatMap fun server => if Tagged server key then [server.name] else [] := by
  induction servers with
  | nil => rfl
  | cons server servers ih =>
    rw [List.flatMap_cons, ← ih, List.filter_cons]
    by_cases tagged : Tagged server key <;> simp [tagged]

theorem valuesAt_taggings (servers : List Server) (key : String) :
    (valuesAt (taggings servers) key).eraseDups = taggedNames servers key := by
  rw [taggedNames, filter_tagged_eq, taggings, valuesAt, List.filter_flatMap, List.map_flatMap]
  apply eraseDups_flatMap_congr
  intro server _
  exact valuesAt_of_server server key

theorem serversByTag_eq (servers : List Server) :
    serversByTag servers =
      ((taggings servers).map (·.1)).eraseDups.map fun key => (key, taggedNames servers key) := by
  unfold serversByTag
  rw [show (servers.flatMap fun s => (s.applicationTags.filterMap keyPart?).map (·, s.name)) =
    taggings servers from rfl, grouped_eq, List.map_map]
  apply List.map_congr_left
  intro key _
  simp only [Function.comp_apply, valuesAt_taggings]

theorem mem_serversByTag {server : Server} (known : server ∈ servers) (tagged : Tagged server key) :
    (key, taggedNames servers key) ∈ serversByTag servers := by
  obtain ⟨tag, carried, given⟩ := tagged
  rw [serversByTag_eq, keys_taggings]
  apply List.mem_map_of_mem
  rw [List.mem_eraseDups, List.mem_flatMap]
  exact ⟨server, known, List.mem_filterMap.mpr ⟨tag, carried, given⟩⟩

theorem mem_serverVariables {server : Server} (known : server ∈ servers)
    (tagged : Tagged server key) :
    ("ServerNames_" ++ key, .ofMatches (taggedNames servers key)) ∈ serverVariables servers ∧
      ∃ first rest, taggedNames servers key = first :: rest ∧
        ("Server_" ++ key, .scalar first) ∈ serverVariables servers := by
  have some : server.name ∈ taggedNames servers key :=
    mem_taggedNames_iff.mpr ⟨server, known, tagged, rfl⟩
  obtain ⟨first, rest, names⟩ := List.exists_cons_of_ne_nil (List.ne_nil_of_mem some)
  have entry := mem_serversByTag known tagged
  have set : ∀ v ∈ ((taggedNames servers key).head?.toList.map fun n =>
      ("Server_" ++ key, Variable.scalar n)) ++
        [("ServerNames_" ++ key, .ofMatches (taggedNames servers key))], v ∈ serverVariables servers := by
    intro v member
    unfold serverVariables
    rw [if_neg (by simpa using List.ne_nil_of_mem known)]
    exact List.mem_append_left _ (List.mem_flatMap.mpr ⟨_, entry, member⟩)
  refine ⟨set _ (by simp), first, rest, names, set _ ?_⟩
  simp [names]

theorem mem_serverVariables_all (some : servers ≠ []) :
    ("ServerNames", .array (servers.map (·.name))) ∈ serverVariables servers ∧
      ("Servers", .table (servers.map serverRecord)) ∈ serverVariables servers := by
  unfold serverVariables
  rw [if_neg (by simpa using some)]
  simp

variable {topology : TopologyStore} {paths : PathStore} {environment : Environment} {rows : Rows}

/-- After a resolution the servers of every tag stand under the key of the tag, one of them as a text,
several as a list; all servers are listed besides. -/
theorem servers_by_tag (read : readRows topology environment = .ok rows) (s : Scope) :
    let value := ((resolve topology paths environment).run s).state.get?
    (∀ server ∈ rows.servers, ∀ tag ∈ server.applicationTags, ∀ key, keyPart? tag = some key →
      let names := taggedNames rows.servers key
      (∀ other, keyPart? other = some key ↔ Alike other tag) ∧
      (∀ n, value ("ServerNames_" ++ key) = some (.scalar n) ↔ names = [n]) ∧
      ((∀ n, names ≠ [n]) → value ("ServerNames_" ++ key) = some (.array names)) ∧
      (∀ ns, value ("ServerNames_" ++ key) = some (.array ns) → 2 ≤ ns.length) ∧
      ∃ first rest, names = first :: rest ∧ value ("Server_" ++ key) = some (.scalar first)) ∧
    (rows.servers ≠ [] →
      value "ServerNames" = some (.array (rows.servers.map (·.name))) ∧
      value "Servers" = some (.table (rows.servers.map serverRecord))) := by
  intro value
  have found : ∀ {name : String} {v : Variable}, (name, v) ∈ serverVariables rows.servers →
      value name = some v := fun member =>
    get?_resolve_of_mem read (Rows.mem_variables_iff.mpr (.inr (.inl member))) s
  constructor
  · intro server known tag carried key given names
    obtain ⟨listed, first, rest, some, one⟩ := mem_serverVariables known ⟨tag, carried, given⟩
    have shape := found listed
    refine ⟨keyPart?_eq_some_iff_alike given, ?_, ?_, ?_, first, rest, some, found one⟩
    · intro n
      rw [shape, Option.some.injEq, Variable.ofMatches_eq_scalar_iff]
    · intro several
      rw [shape, Variable.ofMatches_of_ne several]
    · intro ns array
      rw [shape, Option.some.injEq, Variable.ofMatches_eq_array_iff] at array
      obtain ⟨rfl, several⟩ := array
      rw [some] at several ⊢
      cases rest with
      | nil => exact absurd rfl (several first)
      | cons second rest => simp
  · intro some
    obtain ⟨names, records⟩ := mem_serverVariables_all some
    exact ⟨found names, found records⟩

def farm : List Server :=
  [⟨"app01", "Linux", ["App Server", " App_Server\t"], []⟩, ⟨"app01", "Windows", ["App_Server", "Web"], []⟩,
    ⟨"app02", "Linux", [" ", "Web"], []⟩]

theorem servers_by_tag_farm :
    let environment : Environment := { id := 1, name := "UAT" }
    let catalog : Catalog := farm.foldl (·.addServer 1 ·) {}
    let value s := ((resolve catalog.topologyStore catalog.pathStore environment).run s).state.get?
    readRows catalog.topologyStore environment = .ok ⟨farm, [], []⟩ ∧
    ∀ s, value s "ServerNames_App_Server" = some (.scalar "app01") ∧
      value s "ServerNames_Web" = some (.array ["app01", "app02"]) ∧
      value s "Server_Web" = some (.scalar "app01") ∧
      value s "ServerNames" = some (.array ["app01", "app01", "app02"]) := by
  intro environment catalog value
  have read : readRows catalog.topologyStore environment = .ok ⟨farm, [], []⟩ := rfl
  refine ⟨read, fun s => ?_⟩
  obtain ⟨tagged, all⟩ := @servers_by_tag _ catalog.pathStore _ _ read s
  have app : taggedNames farm "App_Server" = ["app01"] := by decide
  have web : taggedNames farm "Web" = ["app01", "app02"] := by decide
  obtain ⟨-, one, -⟩ := tagged farm[0] (by simp [farm]) "App Server" (by decide) "App_Server" (by decide)
  obtain ⟨-, -, several, -, first, rest, names, server⟩ :=
    tagged farm[1] (by simp [farm]) "Web" (by decide) "Web" (by decide)
  refine ⟨(one "app01").mpr app, web ▸ several fun n one => ?_, ?_, (all (by decide)).1⟩
  · cases web.symm.trans one
  · cases web.symm.trans names
    exact server

end DeployPlan.Scope
