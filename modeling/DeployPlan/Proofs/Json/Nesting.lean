import DeployPlan.Proofs.Json.Layout

/-!
Nesting. How deep the containers of a value stand within each other, and values that are built from texts
and containers alone.
-/

namespace DeployPlan.Json

namespace Value

mutual
def nesting : Value → Nat
  | .list items => nestingOfItems items + 1
  | .object members => nestingOfMembers members + 1
  | _ => 0

def nestingOfItems : List Value → Nat
  | [] => 0
  | v :: vs => max v.nesting (nestingOfItems vs)

def nestingOfMembers : List (String × Value) → Nat
  | [] => 0
  | (_, v) :: ms => max v.nesting (nestingOfMembers ms)
end

theorem nestingOfItems_le_iff {vs : List Value} {n : Nat} :
    nestingOfItems vs ≤ n ↔ ∀ v ∈ vs, v.nesting ≤ n := by
  induction vs with
  | nil => simp [nestingOfItems]
  | cons v vs ih => rw [nestingOfItems, Nat.max_le, ih, List.forall_mem_cons]

mutual
def Numberless : Value → Prop
  | .number _ => False
  | .list items => ItemsNumberless items
  | .object members => MembersNumberless members
  | _ => True

def ItemsNumberless : List Value → Prop
  | [] => True
  | v :: vs => v.Numberless ∧ ItemsNumberless vs

def MembersNumberless : List (String × Value) → Prop
  | [] => True
  | (_, v) :: ms => v.Numberless ∧ MembersNumberless ms
end

mutual
theorem Numberless.legal : ∀ {v : Value}, v.Numberless → v.Legal
  | .null, _ => trivial
  | .bool _, _ => trivial
  | .number _, impossible => impossible.elim
  | .text _, _ => trivial
  | .list _, items => ItemsNumberless.legal items
  | .object _, members => MembersNumberless.legal members

theorem ItemsNumberless.legal : ∀ {vs : List Value}, ItemsNumberless vs → ItemsLegal vs
  | [], _ => trivial
  | _ :: _, ⟨first, later⟩ => ⟨first.legal, ItemsNumberless.legal later⟩

theorem MembersNumberless.legal : ∀ {ms : List (String × Value)}, MembersNumberless ms → MembersLegal ms
  | [], _ => trivial
  | (_, _) :: _, ⟨first, later⟩ => ⟨first.legal, MembersNumberless.legal later⟩
end

theorem itemsNumberless_texts (ss : List String) : ItemsNumberless (ss.map .text) := by
  induction ss with
  | nil => exact trivial
  | cons s ss ih => exact ⟨trivial, ih⟩

end Value

end DeployPlan.Json
