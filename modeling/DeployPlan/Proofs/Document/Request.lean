import DeployPlan.Proofs.Document.Tolerance

/-!
Written requests. A request that was written is read back as it was, whatever its texts and lists
hold.
-/

namespace DeployPlan

open Json (Value)

theorem BuildDetail.legal_json (d : BuildDetail) : d.json.Legal := by
  have id : (Value.option Value.word d.buildId).Legal := by
    cases d.buildId with
    | none => trivial
    | some n => exact Json.legal_digits n.toNat
  exact ⟨id, trivial, trivial, trivial, trivial, trivial⟩

namespace DeploymentRequest

theorem legal_json (r : DeploymentRequest) : r.json.Legal := by
  have texts (ss : List String) : (Value.texts ss).Legal :=
    Json.Value.legal_listOf fun s _ => trivial
  have properties : (Value.listOf Property.json r.properties).Legal :=
    Json.Value.legal_listOf fun p _ => ⟨trivial, trivial, trivial⟩
  exact ⟨trivial, texts r.components, texts r.componentsToSkip, r.build.legal_json, properties,
    trivial⟩

theorem decodeText_write (r : DeploymentRequest) : Json.decodeText decoder r.write = .ok r := by
  have decoded := @decoder_variant .ofStream _ r r.variant_json (by decide)
  rw [write, Value.indentedText, Json.decodeText, String.toList_ofList,
    Json.Node.read_indented r.legal_json]
  simp only [decoded]
  rfl

/-- Writing a request gives a JSON text of it, and reading that text gives the request back. -/
theorem read_write (r : DeploymentRequest) :
    Json.Spells r.json r.write.toList ∧ read r.write = .ok r := by
  constructor
  · rw [write, Value.indentedText, String.toList_ofList]
    exact Json.spells_indented r.legal_json 0
  · rw [read, decodeText_write]
    rfl

end DeploymentRequest

end DeployPlan
