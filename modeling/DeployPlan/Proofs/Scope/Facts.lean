import DeployPlan.Proofs.Scope.Groups
import DeployPlan.Proofs.Scope.Key
import DeployPlan.Proofs.Scope.Reads

/-!
What is known about an environment, and the variables that are set for it. The variables come topic by
topic; a topic is about some names only, so no name is set twice.
-/

namespace DeployPlan.Scope

/-- All that is known about an environment. -/
structure Facts extends Rows where
  fileShare? : Option String
  configFile? : Option String

structure Facts.Read (facts : Facts) (topology : TopologyStore) (paths : PathStore)
    (environment : Environment) : Prop where
  rows : readRows topology environment = .ok facts.toRows
  fileShare : paths.fileShare environment = .ok facts.fileShare?
  configFile : paths.configFile environment = .ok facts.configFile?

/-- The type of a database is one of the main types, up to surrounding blanks and the case of basic
letters. -/
def OfType (d : Database) (m : MainType) : Prop :=
  Text.sameIgnoringCase (Text.trim d.dbType) m.dbType = true

instance (d : Database) (m : MainType) : Decidable (OfType d m) :=
  inferInstanceAs (Decidable (_ = true))

/-- The variables that are set for an environment. -/
def Facts.Sets (facts : Facts) : Key → Prop
  | .single .environmentName => True
  | .single .environmentShortName => True
  | .single .serverNames => facts.servers ≠ []
  | .single .servers => facts.servers ≠ []
  | .single .databasePermissions => facts.databases ≠ []
  | .single .fileSharePath => facts.fileShare? ≠ none
  | .single .configFilePath => facts.configFile? ≠ none
  | .single (.dbName m) => ∃ d ∈ facts.databases, OfType d m
  | .single (.dbServer m) => ∃ d ∈ facts.databases, OfType d m
  | .tagged .server key => ∃ s ∈ facts.servers, ∃ tag ∈ s.applicationTags, KeyOf tag key
  | .tagged .serverNames key => ∃ s ∈ facts.servers, ∃ tag ∈ s.applicationTags, KeyOf tag key
  | .tagged .dbServer key => ∃ d ∈ facts.databases, KeyOf d.dbType key
  | .tagged .dbName key => ∃ d ∈ facts.databases, KeyOf d.dbType key

/-- What a variable is about. -/
inductive Topic where
  | environment
  | servers
  | databases
  | permissions
  | shortcuts
  | fileShare
  | configFile
deriving DecidableEq, Repr

def Topic.all : List Topic :=
  [environment, servers, databases, permissions, shortcuts, fileShare, configFile]

theorem Topic.mem_all (topic : Topic) : topic ∈ all := by
  cases topic <;> decide

def Key.topic : Key → Topic
  | .single .environmentName => .environment
  | .single .environmentShortName => .shortcuts
  | .single .serverNames => .servers
  | .single .servers => .servers
  | .single .databasePermissions => .permissions
  | .single .fileSharePath => .fileShare
  | .single .configFilePath => .configFile
  | .single (.dbName _) => .shortcuts
  | .single (.dbServer _) => .shortcuts
  | .tagged .server _ => .servers
  | .tagged .serverNames _ => .servers
  | .tagged .dbServer _ => .databases
  | .tagged .dbName _ => .databases

namespace Facts

variable (facts : Facts) (environment : Environment)

def tags : List String :=
  facts.servers.flatMap fun s => s.applicationTags.filterMap keyPart?

def types : List String :=
  facts.databases.filterMap fun d => keyPart? d.dbType

def variablesOf : Topic → List (String × Variable)
  | .environment => [("EnvironmentName", .scalar environment.name)]
  | .servers => serverVariables facts.servers
  | .databases => databaseVariables facts.databases
  | .permissions => permissionVariables facts.databases facts.grants
  | .shortcuts => shortcutVariables environment facts.databases
  | .fileShare => pathVariables "FileSharePath" facts.fileShare?
  | .configFile => pathVariables "ConfigFilePath" facts.configFile?

def assignments : List (String × Variable) :=
  Topic.all.flatMap (facts.variablesOf environment)

def pathKeys (k : Single) (path? : Option String) : List Key :=
  if path?.isSome then [.single k] else []

def mainKeys (m : MainType) : List Key :=
  if (findByType? facts.databases m.dbType).isSome then [.single (.dbName m), .single (.dbServer m)]
  else []

def keysOf : Topic → List Key
  | .environment => [.single .environmentName]
  | .servers =>
    if facts.servers.isEmpty then []
    else (facts.tags.eraseDups.flatMap fun t => [.tagged .server t, .tagged .serverNames t]) ++
      [.single .serverNames, .single .servers]
  | .databases => facts.types.eraseDups.flatMap fun t => [.tagged .dbServer t, .tagged .dbName t]
  | .permissions => if facts.databases.isEmpty then [] else [.single .databasePermissions]
  | .shortcuts => facts.mainKeys .endur ++ [.single .environmentShortName] ++
      facts.mainKeys .reporting ++ facts.mainKeys .external
  | .fileShare => pathKeys .fileSharePath facts.fileShare?
  | .configFile => pathKeys .configFilePath facts.configFile?

def keys : List Key := Topic.all.flatMap facts.keysOf

/- Names. -/

theorem keys_serversByTag : (serversByTag facts.servers).map (·.1) = facts.tags.eraseDups := by
  rw [serversByTag, List.map_map]
  change (grouped _).map (·.1) = _
  rw [keys_grouped, List.map_flatMap, tags]
  simp only [List.map_map, Function.comp_def, List.map_id']

theorem serversByTag_ne_nil {servers : List Server} {group : String × List String}
    (member : group ∈ serversByTag servers) : group.2 ≠ [] := by
  obtain ⟨tagged, known, rfl⟩ := List.mem_map.mp member
  exact fun none => grouped_ne_nil known (eraseDups_eq_nil_iff.mp none)

theorem keys_databasesByType : (databasesByType facts.databases).map (·.1) = facts.types.eraseDups := by
  rw [databasesByType, keys_grouped, List.map_filterMap, types]
  simp only [Option.map_map, Function.comp_def, Option.map_id']

theorem names_servers : (serverVariables facts.servers).map (·.1) =
    (facts.keysOf .servers).map Key.text := by
  rw [serverVariables, keysOf]
  split
  · rfl
  · rw [List.map_append, List.map_append, ← keys_serversByTag, List.map_flatMap, List.map_flatMap,
      List.flatMap_map]
    -- a tag is listed because some server has it, so there is a first one to be set
    refine congrArg (· ++ _) (List.flatMap_congr fun ⟨tag, names⟩ member => ?_)
    obtain ⟨first, more, rfl⟩ := List.exists_cons_of_ne_nil (serversByTag_ne_nil member)
    rfl

theorem names_databases : (databaseVariables facts.databases).map (·.1) =
    (facts.keysOf .databases).map Key.text := by
  rw [databaseVariables, keysOf, ← keys_databasesByType, List.map_flatMap, List.map_flatMap,
    List.flatMap_map]
  rfl

theorem names_main (m : MainType) :
    ((findByType? facts.databases m.dbType).toList.map (shortcutPair m.beginning)).flatten.map (·.1) =
      (facts.mainKeys m).map Key.text := by
  rw [mainKeys]
  cases findByType? facts.databases m.dbType <;> rfl

theorem names_shortcuts : (shortcutVariables environment facts.databases).map (·.1) =
    (facts.keysOf .shortcuts).map Key.text := by
  simp only [keysOf, List.map_append, ← names_main]
  rw [shortcutVariables]
  simp only [List.map_append]
  rfl

theorem names_path (k : Single) (path? : Option String) :
    (pathVariables k.text path?).map (·.1) = (pathKeys k path?).map Key.text := by
  cases path? <;> rfl

theorem names_variablesOf (topic : Topic) :
    (facts.variablesOf environment topic).map (·.1) = (facts.keysOf topic).map Key.text := by
  cases topic with
  | environment => rfl
  | servers => exact facts.names_servers
  | databases => exact facts.names_databases
  | permissions =>
    rw [variablesOf, keysOf, permissionVariables]
    split <;> rfl
  | shortcuts => exact facts.names_shortcuts environment
  | fileShare => exact names_path .fileSharePath facts.fileShare?
  | configFile => exact names_path .configFilePath facts.configFile?

theorem names_assignments :
    (facts.assignments environment).map (·.1) = facts.keys.map Key.text := by
  rw [assignments, keys, List.map_flatMap, List.map_flatMap]
  exact List.flatMap_congr fun topic _ => facts.names_variablesOf environment topic

/- Each variable once. -/

theorem mem_pairs_iff {f g : Family} {tags : List String} {k : Key} :
    k ∈ tags.flatMap (fun t => [.tagged f t, .tagged g t]) ↔
      ∃ t ∈ tags, k = .tagged f t ∨ k = .tagged g t := by
  simp

theorem nodup_pairs {f g : Family} (different : f ≠ g) {tags : List String} (distinct : tags.Nodup) :
    (tags.flatMap fun t => [Key.tagged f t, Key.tagged g t]).Nodup := by
  rw [List.nodup_flatMap]
  constructor
  · intro t _
    simpa using different
  · refine distinct.imp fun {a b} other => ?_
    simp [Function.onFun, other.symm]

theorem nodup_pathKeys (k : Single) (path? : Option String) : (pathKeys k path?).Nodup := by
  cases path? <;> simp [pathKeys]

theorem mem_pathKeys_iff {k : Single} {path? : Option String} {key : Key} :
    key ∈ pathKeys k path? ↔ path? ≠ none ∧ key = .single k := by
  cases path? <;> simp [pathKeys]

theorem nodup_keysOf (topic : Topic) : (facts.keysOf topic).Nodup := by
  cases topic with
  | environment => exact List.nodup_singleton _
  | servers =>
    simp only [keysOf]
    split
    · exact List.nodup_nil
    · refine List.Nodup.append (nodup_pairs (by decide) (nodup_eraseDups _)) (by decide) ?_
      simp [List.disjoint_right]
  | databases => exact nodup_pairs (by decide) (nodup_eraseDups _)
  | permissions =>
    simp only [keysOf]
    split <;> decide
  | shortcuts =>
    simp only [keysOf, mainKeys]
    split <;> split <;> split <;> decide
  | fileShare => exact nodup_pathKeys _ _
  | configFile => exact nodup_pathKeys _ _

theorem findByType?_isSome_iff {m : MainType} :
    (findByType? facts.databases m.dbType).isSome = true ↔ ∃ d ∈ facts.databases, OfType d m := by
  rw [findByType?, List.find?_isSome]
  rfl

theorem mem_mainKeys_iff {m : MainType} {k : Key} :
    k ∈ facts.mainKeys m ↔
      (k = .single (.dbName m) ∨ k = .single (.dbServer m)) ∧ ∃ d ∈ facts.databases, OfType d m := by
  rw [mainKeys, ← findByType?_isSome_iff]
  split
  · simp_all
  · simp_all

theorem mem_shortcuts_iff {k : Key} :
    k ∈ facts.keysOf .shortcuts ↔ k = .single .environmentShortName ∨ ∃ m, k ∈ facts.mainKeys m := by
  simp only [keysOf, List.mem_append, List.mem_singleton]
  constructor
  · rintro (((endur | short) | reporting) | external)
    · exact Or.inr ⟨_, endur⟩
    · exact Or.inl short
    · exact Or.inr ⟨_, reporting⟩
    · exact Or.inr ⟨_, external⟩
  · rintro (short | ⟨m, main⟩)
    · exact Or.inl (Or.inl (Or.inr short))
    · cases m with
      | endur => exact Or.inl (Or.inl (Or.inl main))
      | reporting => exact Or.inl (Or.inr main)
      | external => exact Or.inr main

theorem mem_servers_iff {k : Key} :
    k ∈ facts.keysOf .servers ↔ facts.servers ≠ [] ∧
      ((∃ t ∈ facts.tags, k = .tagged .server t ∨ k = .tagged .serverNames t) ∨
        k = .single .serverNames ∨ k = .single .servers) := by
  simp only [keysOf]
  split
  · simp_all
  · rename_i some
    rw [List.mem_append, mem_pairs_iff]
    simp_all

theorem topic_of_mem {topic : Topic} {k : Key} (member : k ∈ facts.keysOf topic) :
    k.topic = topic := by
  cases topic with
  | environment =>
    cases List.mem_singleton.mp member
    rfl
  | servers =>
    obtain ⟨-, ⟨t, -, rfl | rfl⟩ | rfl | rfl⟩ := facts.mem_servers_iff.mp member <;> rfl
  | databases =>
    obtain ⟨t, -, rfl | rfl⟩ := mem_pairs_iff.mp member <;> rfl
  | permissions =>
    simp only [keysOf] at member
    split at member
    · cases member
    · cases List.mem_singleton.mp member
      rfl
  | shortcuts =>
    rcases facts.mem_shortcuts_iff.mp member with rfl | ⟨m, main⟩
    · rfl
    · obtain ⟨rfl | rfl, -⟩ := facts.mem_mainKeys_iff.mp main <;> rfl
  | fileShare =>
    obtain ⟨-, rfl⟩ := mem_pathKeys_iff.mp member
    rfl
  | configFile =>
    obtain ⟨-, rfl⟩ := mem_pathKeys_iff.mp member
    rfl

theorem nodup_keys : facts.keys.Nodup := by
  rw [keys, List.nodup_flatMap]
  refine ⟨fun topic _ => facts.nodup_keysOf topic, ?_⟩
  have distinct : Topic.all.Nodup := by decide
  refine distinct.imp fun {a b} other k here there => other ?_
  exact (facts.topic_of_mem here).symm.trans (facts.topic_of_mem there)

theorem mem_tags_iff {t : String} :
    t ∈ facts.tags ↔ ∃ s ∈ facts.servers, ∃ tag ∈ s.applicationTags, KeyOf tag t := by
  simp only [tags, List.mem_flatMap, List.mem_filterMap, keyPart?_eq_some_iff]

theorem mem_types_iff {t : String} : t ∈ facts.types ↔ ∃ d ∈ facts.databases, KeyOf d.dbType t := by
  simp only [types, List.mem_filterMap, keyPart?_eq_some_iff]

theorem servers_ne_nil_of_mem_tags {t : String} (member : t ∈ facts.tags) : facts.servers ≠ [] := by
  obtain ⟨s, known, -⟩ := facts.mem_tags_iff.mp member
  exact List.ne_nil_of_mem known

theorem mem_keysOf_topic (k : Key) : k ∈ facts.keysOf k.topic ↔ facts.Sets k := by
  cases k with
  | single k =>
    cases k with
    | environmentName => simp [Key.topic, keysOf, Sets]
    | environmentShortName => simp [Key.topic, mem_shortcuts_iff, Sets]
    | serverNames => simp [Key.topic, mem_servers_iff, Sets]
    | servers => simp [Key.topic, mem_servers_iff, Sets]
    | databasePermissions => simp [Key.topic, keysOf, Sets]
    | fileSharePath => simp [Key.topic, keysOf, mem_pathKeys_iff, Sets]
    | configFilePath => simp [Key.topic, keysOf, mem_pathKeys_iff, Sets]
    | dbName m => simp [Key.topic, mem_shortcuts_iff, mem_mainKeys_iff, Sets]
    | dbServer m => simp [Key.topic, mem_shortcuts_iff, mem_mainKeys_iff, Sets]
  | tagged f t =>
    have some := facts.servers_ne_nil_of_mem_tags (t := t)
    cases f with
    | server => simpa [Key.topic, mem_servers_iff, Sets, ← mem_tags_iff] using some
    | serverNames => simpa [Key.topic, mem_servers_iff, Sets, ← mem_tags_iff] using some
    | dbServer => simp [Key.topic, keysOf, Sets, ← mem_types_iff]
    | dbName => simp [Key.topic, keysOf, Sets, ← mem_types_iff]

theorem mem_keys_iff (k : Key) : k ∈ facts.keys ↔ facts.Sets k := by
  rw [keys, List.mem_flatMap, ← mem_keysOf_topic]
  constructor
  · rintro ⟨topic, -, member⟩
    cases facts.topic_of_mem member
    exact member
  · intro member
    exact ⟨k.topic, Topic.mem_all _, member⟩

end Facts

end DeployPlan.Scope
