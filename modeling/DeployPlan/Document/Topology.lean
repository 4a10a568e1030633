import DeployPlan.Artifact.Source
import DeployPlan.Build
import DeployPlan.Instant
import DeployPlan.Json.Decoding
import DeployPlan.Json.Writing

/-!
Environments, projects, what runs where, and the particulars of a submission as JSON documents.
-/

namespace DeployPlan

open Json (Decoder Fields Value)

def Environment.json (e : Environment) : Value :=
  .object [("id", .word e.id), ("name", .text e.name), ("production", .bool e.production),
    ("secure", .bool e.secure)]

def Environment.decoder : Decoder Environment :=
  Json.record "Environment"
    (.cons "id" Json.word none <| .cons "name" Json.text none <|
      .cons "production" Json.bool (some false) <| .cons "secure" Json.bool (some false) .nil)
    fun (i, n, p, s, ()) => ⟨i, n, p, s⟩

def ArtifactSettings.json (a : ArtifactSettings) : Value :=
  .object <| [("url", .text a.url), ("sub_paths", .text a.subPaths)] ++
    (match a.nameFilter with
      | none => []
      | some p => [("build_name_filter", .text p)])

def ArtifactSettings.decoder : Decoder ArtifactSettings :=
  Json.record "ProjectArtifactConfig"
    (.cons "url" Json.text none <| .cons "sub_paths" Json.text (some "") <|
      .cons "build_name_filter" (Json.optional Json.text) (some none) .nil)
    fun (u, s, f, ()) => ⟨u, s, f⟩

def Project.json (p : Project) : Value :=
  .object [("id", .word p.id), ("name", .text p.name), ("artifact", p.artifact.json)]

def Project.decoder : Decoder Project :=
  Json.record "Project"
    (.cons "id" Json.word none <| .cons "name" Json.text none <|
      .cons "artifact" ArtifactSettings.decoder none .nil)
    fun (i, n, a, ()) => ⟨i, n, a⟩

def BuildStatus.json (s : BuildStatus) : Value :=
  .object [("component", .text s.component), ("build_number", .text s.buildNumber),
    ("drop_location", .text s.dropLocation), ("uri", .text s.uri), ("project", .text s.project)]

def BuildStatus.decoder : Decoder BuildStatus :=
  Json.record "ComponentBuildStatus"
    (.cons "component" Json.text none <| .cons "build_number" Json.text none <|
      .cons "drop_location" Json.text none <| .cons "uri" Json.text none <|
      .cons "project" Json.text none .nil)
    fun (c, b, d, u, p, ()) => ⟨c, b, d, u, p⟩

def Daemon.json (d : Daemon) : Value :=
  .object [("name", .text d.name), ("display_name", .text d.displayName),
    ("account", .text d.account), ("daemon_type", .text d.daemonType)]

def Daemon.decoder : Decoder Daemon :=
  Json.record "Daemon"
    (.cons "name" Json.text none <| .cons "display_name" Json.text none <|
      .cons "account" Json.text none <| .cons "daemon_type" Json.text none .nil)
    fun (n, d, a, t, ()) => ⟨n, d, a, t⟩

def Server.json (s : Server) : Value :=
  .object [("name", .text s.name), ("os_name", .text s.osName),
    ("application_tags", .texts s.applicationTags), ("daemons", .listOf Daemon.json s.daemons)]

def Server.decoder : Decoder Server :=
  Json.record "Server"
    (.cons "name" Json.text none <| .cons "os_name" Json.text none <|
      .cons "application_tags" (Json.list Json.text) none <|
      .cons "daemons" (Json.list Daemon.decoder) none .nil)
    fun (n, o, t, d, ()) => ⟨n, o, t, d⟩

def Database.json (d : Database) : Value :=
  .object [("name", .text d.name), ("server", .text d.server), ("db_type", .text d.dbType)]

def Database.decoder : Decoder Database :=
  Json.record "Database"
    (.cons "name" Json.text none <| .cons "server" Json.text none <|
      .cons "db_type" Json.text none .nil)
    fun (n, s, t, ()) => ⟨n, s, t⟩

def DatabaseGrant.json (g : DatabaseGrant) : Value :=
  .object [("database", .text g.database), ("user", .text g.user), ("roles", .texts g.roles)]

def DatabaseGrant.decoder : Decoder DatabaseGrant :=
  Json.record "DatabaseGrant"
    (.cons "database" Json.text none <| .cons "user" Json.text none <|
      .cons "roles" (Json.list Json.text) none .nil)
    fun (d, u, r, ()) => ⟨d, u, r⟩

def BuildReference.json (r : BuildReference) : Value :=
  .object [("label", .text r.label), ("locator", .text r.locator)]

def BuildReference.decoder : Decoder BuildReference :=
  Json.record "BuildReference"
    (.cons "label" Json.text none <| .cons "locator" Json.text none .nil)
    fun (l, a, ()) => ⟨l, a⟩

def BuildCandidate.json (c : BuildCandidate) : Value :=
  .object [("display_name", .text c.displayName), ("build_number", .text c.buildNumber),
    ("locator", .text c.locator), ("pinned", .bool c.pinned)]

def BuildCandidate.decoder : Decoder BuildCandidate :=
  Json.record "BuildCandidate"
    (.cons "display_name" Json.text none <| .cons "build_number" Json.text none <|
      .cons "locator" Json.text none <| .cons "pinned" Json.bool none .nil)
    fun (d, b, l, p, ()) => ⟨d, b, l, p⟩

def Instant.decoder : Decoder Instant
  | _, .text s =>
    match Instant.read s with
    | .ok t => .ok t
    | .error e => Json.refuse (.other e.message)
  | ctx, n => Json.mismatch ctx "an RFC 3339 formatted date and time string" n

end DeployPlan
