import DeployPlan.Proofs.Json.Spelling

/-!
Indented writing. What is written is a text of the value, so it is read back as that value.
-/

namespace DeployPlan.Json

mutual
def Value.Legal : Value → Prop
  | .number n => n.Legal
  | .list items => Value.ItemsLegal items
  | .object members => Value.MembersLegal members
  | _ => True

def Value.ItemsLegal : List Value → Prop
  | [] => True
  | v :: vs => v.Legal ∧ Value.ItemsLegal vs

def Value.MembersLegal : List (String × Value) → Prop
  | [] => True
  | (_, v) :: ms => v.Legal ∧ Value.MembersLegal ms
end

theorem Value.itemsLegal_iff {vs : List Value} : Value.ItemsLegal vs ↔ ∀ v ∈ vs, v.Legal := by
  induction vs with
  | nil => simp [Value.ItemsLegal]
  | cons v vs ih => rw [Value.ItemsLegal, ih, List.forall_mem_cons]

theorem Value.legal_listOf {α : Type} {as : List α} {f : α → Value}
    (legal : ∀ a ∈ as, (f a).Legal) : (Value.listOf f as).Legal :=
  Value.itemsLegal_iff.mpr (List.forall_mem_map.mpr legal)

theorem blank_newLine (level : Nat) : Blank (newLine level) := by
  intro c member
  rcases List.mem_cons.mp member with rfl | member
  · rfl
  · rw [List.eq_of_mem_replicate member]
    rfl

theorem separates_newLine (level : Nat) : Separates false (',' :: newLine level) :=
  .later blank_nil (blank_newLine level)

mutual
theorem spells_indented : ∀ {v : Value}, v.Legal → ∀ level, Spells v (indented level v)
  | .null, _, _ => .null
  | .bool b, _, _ => .bool b
  | .number _, legal, _ => .number legal
  | .text s, _, _ => .text s
  | .list [], _, _ => .list (.nil blank_nil)
  | .list (v :: vs), legal, level => by
    refine .list ?_
    rw [List.append_assoc]
    exact .cons (.first (blank_newLine (level + 1))) (spells_indented legal.1 (level + 1))
      (spellsItems_indented legal.2 level)
  | .object [], _, _ => .object (.nil blank_nil)
  | .object ((k, v) :: ms), legal, level => by
    have members := SpellsMembers.cons (k := k)
      (.first (blank_newLine (level + 1))) blank_nil blank_space
      (spells_indented legal.1 (level + 1)) (spellsMembers_indented legal.2 level)
    refine .object ?_
    simpa using members

theorem spellsItems_indented :
    ∀ {vs : List Value}, Value.ItemsLegal vs → ∀ level,
      SpellsItems false vs (indentedItems level vs)
  | [], _, level => .nil (blank_newLine level)
  | v :: vs, legal, level => by
    rw [indentedItems, List.append_assoc, ← List.cons_append]
    exact .cons (separates_newLine (level + 1)) (spells_indented legal.1 (level + 1))
      (spellsItems_indented legal.2 level)

theorem spellsMembers_indented :
    ∀ {ms : List (String × Value)}, Value.MembersLegal ms → ∀ level,
      SpellsMembers false ms (indentedMembers level ms)
  | [], _, level => .nil (blank_newLine level)
  | (k, v) :: ms, legal, level => by
    have members := SpellsMembers.cons (k := k)
      (separates_newLine (level + 1)) blank_nil blank_space
      (spells_indented legal.1 (level + 1)) (spellsMembers_indented legal.2 level)
    rw [indentedMembers]
    simpa using members
end

theorem Node.read_indented {v : Value} (legal : v.Legal) (level : Nat) :
    Node.read (indented level v) = (v.node, some []) := by
  have value := (spells_indented legal level).read (3 * (indented level v).length + 2) []
    (by omega) ends_nil
  rw [List.append_nil] at value
  exact value

end DeployPlan.Json
