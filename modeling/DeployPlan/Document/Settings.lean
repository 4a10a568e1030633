import DeployPlan.Json.Decoding
import DeployPlan.Json.Writing
import DeployPlan.Settings

/-!
Settings as documents. The same decoder serves JSON and configuration files.
-/

namespace DeployPlan

open Json (Decoder Fields Value)

def BuildSystemSettings.json (s : BuildSystemSettings) : Value :=
  .object <|
    [("timeout_secs", .word s.timeoutSeconds), ("api_version", .text s.apiVersion),
      ("user_agent", .text s.userAgent)] ++
    (match s.token with
      | none => []
      | some t => [("token", .text t)])

def BuildSystemSettings.decoder : Decoder BuildSystemSettings :=
  let default : BuildSystemSettings := {}
  Json.record "BuildSystemConfig"
    (.cons "timeout_secs" Json.word (some default.timeoutSeconds) <|
      .cons "api_version" Json.text (some default.apiVersion) <|
      .cons "user_agent" Json.text (some default.userAgent) <|
      .cons "token" (Json.optional Json.text) (some none) .nil)
    fun (t, a, u, k, ()) => ⟨t, a, u, k⟩

def PlanningSettings.json (s : PlanningSettings) : Value :=
  .object [("max_tree_depth", .word s.maxTreeDepth)]

def PlanningSettings.decoder : Decoder PlanningSettings :=
  let default : PlanningSettings := {}
  Json.record "PlanningConfig"
    (.cons "max_tree_depth" (fun ctx n => (Json.size ctx n).map UInt64.ofNat)
      (some default.maxTreeDepth) .nil)
    fun (d, ()) => ⟨d⟩

def Settings.json (s : Settings) : Value :=
  .object [("build_system", s.buildSystem.json), ("planning", s.planning.json)]

def Settings.decoder : Decoder Settings :=
  Json.record "RolloutConfig"
    (.cons "build_system" BuildSystemSettings.decoder (some {}) <|
      .cons "planning" PlanningSettings.decoder (some {}) .nil)
    fun (b, p, ()) => ⟨b, p⟩

end DeployPlan
