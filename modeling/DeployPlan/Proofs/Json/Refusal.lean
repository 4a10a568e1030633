import DeployPlan.Proofs.Json.Record

/-!
Refused documents. A list or a record is refused for the reason for which the first of its parts that
cannot be decoded is refused.
-/

namespace DeployPlan.Json

variable {α β : Type} {ctx : Context} {d : Decoder α} {p : Problem}

def RefusedFor (p : Problem) (r : Result α) : Prop :=
  ∃ place, r = .error ⟨place, p⟩

theorem RefusedFor.map {r : Result α} (refused : RefusedFor p r) (f : α → β) :
    RefusedFor p (r.map f) := by
  obtain ⟨place, rfl⟩ := refused
  exact ⟨place, rfl⟩

theorem not_refused_ok {a : α} : ¬ RefusedFor p (.ok a : Result α) := by
  rintro ⟨place, impossible⟩
  cases impossible

theorem items_cons_refused {n : Node} {ns : List Node} {stop : Option Stop} (index : Nat)
    (refused : RefusedFor p (d ctx n)) : RefusedFor p (items d ctx stop index (n :: ns)) := by
  obtain ⟨place, failed⟩ := refused
  rw [items, failed]
  exact ⟨.item index :: place, rfl⟩

theorem items_cons_later {a : α} {n : Node} {ns : List Node} {stop : Option Stop} (index : Nat)
    (decoded : d ctx n = .ok a) (refused : RefusedFor p (items d ctx stop (index + 1) ns)) :
    RefusedFor p (items d ctx stop index (n :: ns)) := by
  obtain ⟨place, failed⟩ := refused
  rw [items, decoded, failed]
  exact ⟨place, rfl⟩

theorem items_refused {as : List α} {f : α → Value} (index : Nat)
    (each : ∀ a ∈ as, d ctx (f a).node = .ok a ∨ RefusedFor p (d ctx (f a).node))
    (one : ∃ a ∈ as, RefusedFor p (d ctx (f a).node)) :
    RefusedFor p (items d ctx none index (Value.nodes (as.map f))) := by
  induction as generalizing index with
  | nil => simp at one
  | cons a as ih =>
    obtain ⟨first, later⟩ := List.forall_mem_cons.mp each
    rw [List.map_cons, Value.nodes]
    rcases first with decoded | refused
    · obtain ⟨b, member, refused⟩ := one
      rcases List.mem_cons.mp member with rfl | member
      · rw [decoded] at refused
        exact absurd refused not_refused_ok
      · exact items_cons_later index decoded (ih (index + 1) later ⟨b, member, refused⟩)
    · exact items_cons_refused index refused

/-- The members stand in the order of the fields, each once, up to one that is refused. -/
inductive Stumbles (ctx : Context) (p : Problem) :
    {β : Type} → Fields β → List (String × Value) → Prop
  | here {α β : Type} {name : String} {d : Decoder α} {absent : Option α} {rest : Fields β}
      {v : Value} {members : List (String × Value)} :
      RefusedFor p (d ctx v.node) →
        Stumbles ctx p (.cons name d absent rest) ((name, v) :: members)
  | later {α β : Type} {name : String} {d : Decoder α} {absent : Option α} {rest : Fields β}
      {v : Value} {members : List (String × Value)} {a : α} :
      d ctx v.node = .ok a → name ∉ members.map Prod.fst → Stumbles ctx p rest members →
        Stumbles ctx p (.cons name d absent rest) ((name, v) :: members)

theorem members_cons_refused {stop : Option Stop} {name : String} {absent : Option α}
    {rest : Fields β} {ms : List (Option String × Node)} {n : Node}
    (refused : RefusedFor p (d ctx n)) (slots : rest.Slots) :
    RefusedFor p
      (members ctx stop (.cons name d absent rest) ((some name, n) :: ms) (none, slots)) := by
  obtain ⟨place, failed⟩ := refused
  refine ⟨.field name :: place, ?_⟩
  refine (members_some (.cons name d absent rest) name n (none, slots)).trans ?_
  rw [put_cons, if_pos rfl, failed]
  rfl

theorem members_cons_later {stop : Option Stop} {name : String} {absent : Option α} {a : α}
    {rest : Fields β} {ms : List (Option String × Node)} {n : Node} (decoded : d ctx n = .ok a)
    (fresh : ∀ m ∈ ms, m.1 ≠ some name) {slots : rest.Slots}
    (refused : RefusedFor p (members ctx stop rest ms slots)) :
    RefusedFor p
      (members ctx stop (.cons name d absent rest) ((some name, n) :: ms) (none, slots)) := by
  have step : members ctx stop (.cons name d absent rest) ((some name, n) :: ms) (none, slots) =
      (members ctx stop rest ms slots).map (a, ·) := members_cons decoded fresh slots
  exact step ▸ refused.map _

theorem Stumbles.members {fs : Fields β} {ms : List (String × Value)}
    (stumbles : Stumbles ctx p fs ms) :
    RefusedFor p (members ctx none fs (Value.memberNodes ms) fs.empty) := by
  induction stumbles with
  | here refused => exact members_cons_refused refused _
  | later decoded fresh _ ih => exact members_cons_later decoded (memberNodes_fresh fresh) ih

/- A container that cannot be entered is refused as well. -/

theorem list_refused {as : List α} {f : α → Value}
    (inside : 1 < ctx.room → RefusedFor (.fault .malformed)
      (items d { ctx with room := ctx.room - 1 } none 0 (Value.nodes (as.map f)))) :
    RefusedFor (.fault .malformed) (list d ctx (Value.listOf f as).node) := by
  rw [Value.listOf, Value.node, list, enter]
  by_cases room : ctx.room ≤ 1
  · rw [if_pos room]
    exact ⟨[], rfl⟩
  · rw [if_neg room]
    exact inside (Nat.lt_of_not_le room)

theorem record_refused {fs : Fields β} {ms : List (String × Value)} (title : String)
    (make : β → α) (inside : 1 < ctx.room →
      Stumbles { ctx with room := ctx.room - 1 } (.fault .malformed) fs ms) :
    RefusedFor (.fault .malformed) (record title fs make ctx (Value.object ms).node) := by
  rw [Value.node, record, enter]
  by_cases room : ctx.room ≤ 1
  · rw [if_pos room]
    exact ⟨[], rfl⟩
  · rw [if_neg room]
    have refused := (inside (Nat.lt_of_not_le room)).members
    exact refused.map make

end DeployPlan.Json
