import DeployPlan.Document.Settings
import DeployPlan.Proofs.Json.Record

/-!
Settings as documents. The document of settings is decoded to these settings; a token is missing from
it exactly when there is none.
-/

namespace DeployPlan

open Json (Context Decoder Fields Value)

variable {ctx : Context}

theorem BuildSystemSettings.decoder_json (room : 1 < ctx.room) (s : BuildSystemSettings) :
    decoder ctx s.json.node = .ok s := by
  obtain ⟨timeout, version, agent, token⟩ := s
  cases token with
  | some t =>
    exact Json.record_object "BuildSystemConfig" _ room <|
      .cons (Json.word_node timeout) (by simp) <| .cons rfl (by simp) <| .cons rfl (by simp) <|
      .cons rfl (by simp) .nil
  | none =>
    rw [json, List.append_nil, Value.node, decoder, Json.record, Json.enter,
      if_neg (Nat.not_le.mpr room)]
    simp only
    rw [Json.members_first (Json.word_node timeout) (by simp) <| Json.members_first rfl (by simp) <|
      Json.members_first rfl (by simp) rfl]
    rfl

theorem PlanningSettings.decoder_json (room : 1 < ctx.room) (s : PlanningSettings) :
    decoder ctx s.json.node = .ok s := by
  obtain ⟨depth⟩ := s
  have small : depth.toNat ≤ Json.NumberText.wordLimit := Nat.le_of_lt_succ depth.toNat_lt
  have decoded : (Json.size { ctx with room := ctx.room - 1 } (Value.word depth).node).map
      UInt64.ofNat = .ok depth := by
    rw [Json.size, Value.word, Json.natural_nat small]
    exact congrArg Except.ok UInt64.ofNat_toNat
  exact Json.record_object "PlanningConfig" _ room <| .cons decoded (by simp) .nil

theorem Settings.decoder_json (room : 2 < ctx.room) (s : Settings) :
    decoder ctx s.json.node = .ok s := by
  let inner : Context := { ctx with room := ctx.room - 1 }
  have enters : 1 < inner.room := by simp only [inner]; omega
  have build := BuildSystemSettings.decoder_json enters s.buildSystem
  have planning := PlanningSettings.decoder_json enters s.planning
  exact Json.record_object "RolloutConfig" _ (by omega) <|
    .cons build (by simp) <| .cons planning (by simp) .nil

end DeployPlan
