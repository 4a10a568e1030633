import DeployPlan.Proofs.Json.Grammar
import DeployPlan.Proofs.Json.Record

/-!
Objects that were rearranged. The members of an object may be put into any order, members with other
names may be added, and members that may be left out can be missing: a record is decoded from them as
from the object it was made of.
-/

namespace DeployPlan.Json

-- By the text. Only a fault keeps a value from being passed over, and no text spells one.
mutual
theorem SpellsNode.skip {n : Node} {cs : List Char} : SpellsNode n cs → Json.skip n = .ok ()
  | .null => rfl
  | .bool _ => rfl
  | .number _ => rfl
  | @SpellsNode.text s _ _ => by cases s <;> rfl
  | .list items => by
    rw [Json.skip]
    exact items.skip
  | .object members => by
    rw [Json.skip]
    exact members.skip

theorem SpellsNodes.skip {first : Bool} {ns : List Node} {cs : List Char} :
    SpellsNodes first ns cs → skipItems none ns = .ok ()
  | .nil _ => rfl
  | .cons _ item later => by
    simp only [skipItems, item.skip]
    exact later.skip

theorem SpellsEntries.skip {first : Bool} {ms : List (Option String × Node)} {cs : List Char} :
    SpellsEntries first ms cs → skipMembers none ms = .ok ()
  | .nil _ => rfl
  | .cons _ _ _ _ value later => by
    simp only [skipMembers, value.skip]
    exact later.skip
end

def named (ms : List (String × Node)) : List (Option String × Node) :=
  ms.map fun m => (some m.1, m.2)

/-- `ms` are the members `kept` and `others` in any order. What is not kept of `own` may be left out, and
the others have names of their own and values of any kind. -/
structure Mixture (own : List (String × Node)) (omissible : String × Node → Prop)
    (kept others ms : List (String × Node)) : Prop where
  sub : kept.Sublist own
  omitted : ∀ m ∈ own, m ∉ kept → omissible m
  unknown : ∀ m ∈ others, m.1 ∉ own.map Prod.fst
  values : ∀ m ∈ others, ∃ cs, SpellsNode m.2 cs
  order : ms.Perm (kept ++ others)

/-- An object of the members `own`, rearranged: they are in any order, some that may be left out are
missing, and members with unknown names stand anywhere between them. -/
def Rearranged (own : List (String × Node)) (omissible : String × Node → Prop) (n : Node) : Prop :=
  ∃ kept others ms, Mixture own omissible kept others ms ∧ n = .object (named ms) none

inductive Carries (ctx : Context) (omissible : String × Node → Prop) :
    {β : Type} → Fields β → List (String × Node) → β → Prop
  | nil : Carries ctx omissible .nil [] ()
  | cons {α β : Type} {name : String} {d : Decoder α} {absent : Option α} {rest : Fields β} {n : Node}
      {own : List (String × Node)} {a : α} {b : β} :
      d ctx n = .ok a → name ∉ own.map Prod.fst → (omissible (name, n) → absent = some a) →
        Carries ctx omissible rest own b →
          Carries ctx omissible (.cons name d absent rest) ((name, n) :: own) (a, b)

section Mixture

variable {α β : Type} {ctx : Context} {omissible : String × Node → Prop} {name : String} {n : Node}
  {own kept others ms before after : List (String × Node)}

theorem named_append : named (before ++ after) = named before ++ named after :=
  List.map_append

theorem named_fresh (fresh : ∀ m ∈ ms, m.1 ≠ name) : ∀ m ∈ named ms, m.1 ≠ some name := by
  intro m member same
  obtain ⟨first, among, rfl⟩ := List.mem_map.mp member
  exact fresh first among (Option.some.inj same)

theorem Rearranged.refl (own : List (String × Node)) (omissible : String × Node → Prop) :
    Rearranged own omissible (.object (named own) none) := by
  refine ⟨own, [], own, ⟨List.Sublist.refl own, ?_, ?_, ?_, ?_⟩, rfl⟩
  · intro m member left
    exact absurd member left
  · rintro m ⟨⟩
  · rintro m ⟨⟩
  · rw [List.append_nil]

theorem Mixture.tail_of_omitted (mixture : Mixture ((name, n) :: own) omissible kept others ms)
    (sub : kept.Sublist own) : Mixture own omissible kept others ms where
  sub := sub
  omitted m member left := mixture.omitted m (List.mem_cons_of_mem _ member) left
  unknown m member later := mixture.unknown m member (List.mem_cons_of_mem _ later)
  values := mixture.values
  order := mixture.order

theorem Mixture.tail_of_kept
    (mixture : Mixture ((name, n) :: own) omissible ((name, n) :: kept) others
      (before ++ (name, n) :: after))
    (fresh : name ∉ own.map Prod.fst) : Mixture own omissible kept others (before ++ after) where
  sub := List.cons_sublist_cons.mp mixture.sub
  omitted m member left := by
    apply mixture.omitted m (List.mem_cons_of_mem _ member)
    intro again
    rcases List.mem_cons.mp again with rfl | later
    · exact fresh (List.mem_map_of_mem member)
    · exact left later
  unknown m member later := mixture.unknown m member (List.mem_cons_of_mem _ later)
  values := mixture.values
  order := (List.perm_middle.symm.trans mixture.order).cons_inv

theorem Mixture.fresh (mixture : Mixture own omissible kept others ms)
    (fresh : name ∉ own.map Prod.fst) (known : ∀ m ∈ others, m.1 ≠ name) :
    ∀ m ∈ ms, m.1 ≠ name := by
  intro m member
  rcases List.mem_append.mp (mixture.order.mem_iff.mp member) with among | other
  · intro same
    exact fresh (same ▸ List.mem_map_of_mem (mixture.sub.subset among))
  · exact known m other

theorem members_nil (passed : ∀ m ∈ ms, skip m.2 = .ok ()) :
    members ctx none .nil (named ms) Fields.nil.empty = .ok () := by
  induction ms with
  | nil => rfl
  | cons m ms ih =>
    obtain ⟨first, later⟩ := List.forall_mem_cons.mp passed
    refine (members_some .nil m.1 m.2 _).trans ?_
    simp only [Fields.put, first]
    exact ih later

-- The induction is on the fields. The member of the first field is either missing, and then no other
-- member touches its slot, or it stands somewhere and might as well stand at the front.
theorem Carries.members {fs : Fields β} {b : β} (carries : Carries ctx omissible fs own b)
    (mixture : Mixture own omissible kept others ms) :
    Json.members ctx none fs (named ms) fs.empty = .ok b := by
  -- Field by field: what is left when one member is taken out is a mixture for the other fields.
  induction carries generalizing kept ms with
  | nil =>
    apply members_nil
    intro m member
    have none_kept := List.sublist_nil.mp mixture.sub
    have other := mixture.order.mem_iff.mp member
    rw [none_kept, List.nil_append] at other
    obtain ⟨cs, spells⟩ := mixture.values m other
    exact spells.skip
  | @cons _ _ name d absent rest n own a b decoded fresh given _ ih =>
    have known : ∀ m ∈ others, m.1 ≠ name := by
      intro m member same
      exact mixture.unknown m member (same ▸ List.mem_cons_self)
    rcases List.sublist_cons_iff.mp mixture.sub with sub | ⟨later, rfl, sub⟩
    · have left : (name, n) ∉ kept := by
        intro member
        exact fresh (List.mem_map_of_mem (sub.subset member))
      have settled : Option.or none absent = some a :=
        given (mixture.omitted _ List.mem_cons_self left)
      have tail := mixture.tail_of_omitted sub
      refine (members_cons_settled settled (named_fresh (tail.fresh fresh known)) _).trans ?_
      rw [ih tail]
      rfl
    · have member : (name, n) ∈ ms := mixture.order.mem_iff.mpr List.mem_cons_self
      obtain ⟨before, after, rfl⟩ := List.append_of_mem member
      have tail := mixture.tail_of_kept fresh
      have unread := named_fresh (tail.fresh fresh known)
      rw [named_append] at unread ⊢
      refine (members_cons_given _ decoded unread _).trans ?_
      rw [← named_append, ih tail]
      rfl

theorem Rearranged.record {fs : Fields β} {b : β} (rearranged : Rearranged own omissible n)
    (title : String) (make : β → α) (room : 1 < ctx.room)
    (carries : Carries { ctx with room := ctx.room - 1 } omissible fs own b) :
    Json.record title fs make ctx n = .ok (make b) := by
  obtain ⟨kept, others, ms, mixture, rfl⟩ := rearranged
  rw [Json.record, enter, if_neg (Nat.not_le.mpr room), carries.members mixture]
  rfl

end Mixture

end DeployPlan.Json
