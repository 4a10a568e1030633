import DeployPlan.Json.Decoding
import DeployPlan.Proofs.Json.Layout

/-!
Writing in one line, and decoding any text of a value. What is decoded depends on the value alone and
not on how it is laid out.
-/

namespace DeployPlan.Json

theorem separates_comma : Separates false [','] :=
  .later blank_nil blank_nil

mutual
theorem spells_compact : ∀ {v : Value}, v.Legal → Spells v (compact v)
  | .null, _ => .null
  | .bool b, _ => .bool b
  | .number _, legal => .number legal
  | .text s, _ => .text s
  | .list [], _ => .list (.nil blank_nil)
  | .list (_ :: _), legal =>
    .list (.cons (.first blank_nil) (spells_compact legal.1) (spellsItems_compact legal.2))
  | .object [], _ => .object (.nil blank_nil)
  | .object ((_, _) :: _), legal =>
    .object (.cons (.first blank_nil) blank_nil blank_nil (spells_compact legal.1)
      (spellsMembers_compact legal.2))

theorem spellsItems_compact :
    ∀ {vs : List Value}, Value.ItemsLegal vs → SpellsItems false vs (compactItems vs)
  | [], _ => .nil blank_nil
  | _ :: _, legal => .cons separates_comma (spells_compact legal.1) (spellsItems_compact legal.2)

theorem spellsMembers_compact :
    ∀ {ms : List (String × Value)}, Value.MembersLegal ms →
      SpellsMembers false ms (compactMembers ms)
  | [], _ => .nil blank_nil
  | (_, _) :: _, legal =>
    .cons separates_comma blank_nil blank_nil (spells_compact legal.1)
      (spellsMembers_compact legal.2)
end

theorem spells_compactText {v : Value} (legal : v.Legal) : Spells v v.compactText.toList := by
  rw [Value.compactText, String.toList_ofList]
  exact spells_compact legal

theorem spells_indentedText {v : Value} (legal : v.Legal) : Spells v v.indentedText.toList := by
  rw [Value.indentedText, String.toList_ofList]
  exact spells_indented legal 0

theorem spelled_value {v : Value} (legal : v.Legal) : ∃ cs, SpellsNode v.node cs :=
  ⟨_, (spells_compact legal).node⟩

theorem decodeText_document {α : Type} (d : Decoder α) {n : Node} {text : String}
    (spells : SpellsDocument n text.toList) :
    decodeText d text = (d .ofStream n).mapError Complaint.problem := by
  obtain ⟨rest, whole, blank⟩ := spells.read
  rw [decodeText, whole]
  cases decoded : d .ofStream n with
  | error c => simp only [decoded, Except.mapError]
  | ok a =>
    simp only [decoded, blank]
    rfl

theorem Spells.document {v : Value} {cs : List Char} (spells : Spells v cs) :
    SpellsDocument v.node cs := by
  have whole := SpellsDocument.mk blank_nil spells.node blank_nil
  rwa [List.nil_append, List.append_nil] at whole

theorem decodeText_spelled {α : Type} (d : Decoder α) {v : Value} {text : String}
    (spells : Spells v text.toList) :
    decodeText d text = (d .ofStream v.node).mapError Complaint.problem :=
  decodeText_document d spells.document

end DeployPlan.Json
