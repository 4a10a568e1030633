import Mathlib.Data.List.Forall2
import DeployPlan.Json.Decoding

/-!
Decoding what was made from data. A record whose members stand in the order of its fields, each once,
is decoded field by field; a list item by item.
-/

namespace DeployPlan.Json

variable {α β : Type} {ctx : Context} {stop : Option Stop} {name : String} {d : Decoder α}
  {absent : Option α} {rest : Fields β} {ms : List (Option String × Node)}

theorem put_cons (k : String) (n : Node) (slot : Option α) (slots : rest.Slots) :
    (Fields.cons name d absent rest).put ctx k n (slot, slots) =
      if k = name then
        match slot with
        | some _ => some (refuse (.duplicateField name))
        | none => some ((within (.field name) (d ctx n)).map fun a => (some a, slots))
      else (rest.put ctx k n slots).map (·.map fun others => (slot, others)) := rfl

theorem members_some (fs : Fields β) (k : String) (n : Node) (slots : fs.Slots) :
    members ctx stop fs ((some k, n) :: ms) slots =
      match fs.put ctx k n slots with
      | none => do
        skip n
        members ctx stop fs ms slots
      | some (.ok slots) => members ctx stop fs ms slots
      | some (.error e) => .error e :=
  members.eq_def ctx stop fs ((some k, n) :: ms) slots

theorem members_cons_settled {a : α} {slot : Option α} (settled : slot.or absent = some a)
    (fresh : ∀ m ∈ ms, m.1 ≠ some name) (slots : rest.Slots) :
    members ctx stop (.cons name d absent rest) ms (slot, slots) =
      (members ctx stop rest ms slots).map (a, ·) := by
  induction ms generalizing slots with
  | nil =>
    cases stop with
    | some _ => rfl
    | none =>
      cases slot with
      | some b =>
        cases Option.some.inj settled
        rfl
      | none =>
        cases settled
        rfl
  | cons m ms ih =>
    obtain ⟨other, later⟩ := List.forall_mem_cons.mp fresh
    obtain ⟨k, n⟩ := m
    cases k with
    | none => rfl
    | some k =>
      have distinct : k ≠ name := fun same => other (congrArg some same)
      refine (members_some (.cons name d absent rest) k n (slot, slots)).trans ?_
      rw [members_some, put_cons, if_neg distinct]
      cases rest.put ctx k n slots with
      | none =>
        simp only [Option.map_none, ih later]
        cases skip n <;> rfl
      | some put =>
        cases put with
        | ok slots => exact ih later slots
        | error e => rfl

theorem members_cons_given {a : α} {n : Node} {after : List (Option String × Node)}
    (before : List (Option String × Node)) (decoded : d ctx n = .ok a)
    (fresh : ∀ m ∈ before ++ after, m.1 ≠ some name) (slots : rest.Slots) :
    members ctx stop (.cons name d absent rest) (before ++ (some name, n) :: after) (none, slots) =
      (members ctx stop rest (before ++ after) slots).map (a, ·) := by
  -- The members in front are for other fields and fill the slots behind the first.
  induction before generalizing slots with
  | nil =>
    refine (members_some (.cons name d absent rest) name n (none, slots)).trans ?_
    rw [put_cons, if_pos rfl, decoded]
    exact members_cons_settled rfl fresh slots
  | cons m before ih =>
    obtain ⟨other, later⟩ := List.forall_mem_cons.mp fresh
    obtain ⟨k, first⟩ := m
    cases k with
    | none => rfl
    | some k =>
      have distinct : k ≠ name := fun same => other (congrArg some same)
      refine (members_some (.cons name d absent rest) k first (none, slots)).trans ?_
      rw [List.cons_append, members_some, put_cons, if_neg distinct]
      cases rest.put ctx k first slots with
      | none =>
        simp only [Option.map_none, List.append_eq, ih later]
        cases skip first <;> rfl
      | some put =>
        cases put with
        | ok slots => exact ih later slots
        | error e => rfl

theorem members_cons {a : α} {n : Node} (decoded : d ctx n = .ok a)
    (fresh : ∀ m ∈ ms, m.1 ≠ some name) (slots : rest.Slots) :
    members ctx stop (.cons name d absent rest) ((some name, n) :: ms) (none, slots) =
      (members ctx stop rest ms slots).map (a, ·) :=
  members_cons_given [] decoded fresh slots

/-- The members stand in the order of the fields, each once, and give these values. -/
inductive Fills (ctx : Context) : {β : Type} → Fields β → List (String × Value) → β → Prop
  | nil : Fills ctx .nil [] ()
  | cons {α β : Type} {name : String} {d : Decoder α} {absent : Option α} {rest : Fields β}
      {v : Value} {members : List (String × Value)} {a : α} {b : β} :
      d ctx v.node = .ok a → name ∉ members.map Prod.fst → Fills ctx rest members b →
        Fills ctx (.cons name d absent rest) ((name, v) :: members) (a, b)

theorem mem_memberNodes {members : List (String × Value)} {m : Option String × Node}
    (member : m ∈ Value.memberNodes members) : ∃ k ∈ members.map Prod.fst, m.1 = some k := by
  induction members with
  | nil => cases member
  | cons first members ih =>
    obtain ⟨k, v⟩ := first
    rcases List.mem_cons.mp member with rfl | later
    · exact ⟨k, List.mem_cons_self, rfl⟩
    · obtain ⟨k, named, same⟩ := ih later
      exact ⟨k, List.mem_cons_of_mem _ named, same⟩

theorem memberNodes_fresh {members : List (String × Value)} (fresh : name ∉ members.map Prod.fst) :
    ∀ m ∈ Value.memberNodes members, m.1 ≠ some name := by
  intro m member same
  obtain ⟨k, named, key⟩ := mem_memberNodes member
  have equal : k = name := Option.some.inj (key.symm.trans same)
  exact fresh (equal ▸ named)

theorem members_first {v : Value} {later : List (String × Value)} {a : α} {b : β}
    (decoded : d ctx v.node = .ok a) (fresh : name ∉ later.map Prod.fst)
    (others : members ctx none rest (Value.memberNodes later) rest.empty = .ok b) :
    members ctx none (.cons name d absent rest) (Value.memberNodes ((name, v) :: later))
      (Fields.cons name d absent rest).empty = .ok (a, b) := by
  refine (members_cons decoded (memberNodes_fresh fresh) _).trans ?_
  rw [others]
  rfl

theorem Fills.members {fs : Fields β} {ms : List (String × Value)} {b : β}
    (fills : Fills ctx fs ms b) : members ctx none fs (Value.memberNodes ms) fs.empty = .ok b := by
  induction fills with
  | nil => rfl
  | cons decoded fresh _ ih => exact members_first decoded fresh ih

theorem record_object {fs : Fields β} {ms : List (String × Value)} {b : β} (title : String)
    (make : β → α) (room : 1 < ctx.room)
    (fills : Fills { ctx with room := ctx.room - 1 } fs ms b) :
    record title fs make ctx (Value.object ms).node = .ok (make b) := by
  rw [Value.node, record, enter, if_neg (Nat.not_le.mpr room), fills.members]
  rfl

theorem items_forall₂ {as : List α} {ns : List Node}
    (decoded : List.Forall₂ (fun a n => d ctx n = .ok a) as ns) (index : Nat) :
    items d ctx none index ns = .ok as := by
  induction decoded generalizing index with
  | nil => rfl
  | cons first _ ih =>
    rw [items, first, ih (index + 1)]
    rfl

theorem nodes_map (f : α → Value) (as : List α) :
    Value.nodes (as.map f) = as.map fun a => (f a).node := by
  induction as with
  | nil => rfl
  | cons a as ih => rw [List.map_cons, Value.nodes, ih, List.map_cons]

theorem items_map {as : List α} {f : α → Value} (decoded : ∀ a ∈ as, d ctx (f a).node = .ok a)
    (index : Nat) : items d ctx none index (Value.nodes (as.map f)) = .ok as := by
  rw [nodes_map]
  apply items_forall₂
  rw [List.forall₂_map_right_iff, List.forall₂_same]
  exact decoded

theorem list_node {vs : List Value} (room : 1 < ctx.room) :
    list d ctx (Value.list vs).node = items d { ctx with room := ctx.room - 1 } none 0 (Value.nodes vs) := by
  rw [Value.node, list, enter, if_neg (Nat.not_le.mpr room)]

theorem list_listOf {as : List α} {f : α → Value} (room : 1 < ctx.room)
    (decoded : ∀ a ∈ as, d { ctx with room := ctx.room - 1 } (f a).node = .ok a) :
    list d ctx (Value.listOf f as).node = .ok as := by
  rw [Value.listOf, list_node room]
  exact items_map decoded 0

theorem nextItem_ok {a : α} {n : Node} {ns : List Node} {absent : Result α} (index : Nat)
    (decoded : d ctx n = .ok a) : nextItem d ctx stop index absent (n :: ns) = .ok (a, ns) := by
  rw [nextItem, decoded]
  rfl

theorem closeItems_nil (count : Nat) : closeItems ctx none count [] = .ok () := by
  obtain ⟨source, room⟩ := ctx
  cases source <;> rfl

theorem pair_node {db : Decoder β} {u v : Value} {a : α} {b : β} (room : 1 < ctx.room)
    (first : d { ctx with room := ctx.room - 1 } u.node = .ok a)
    (second : db { ctx with room := ctx.room - 1 } v.node = .ok b) :
    pair d db ctx (Value.list [u, v]).node = .ok (a, b) := by
  rw [Value.node, Value.nodes, Value.nodes, Value.nodes, pair, enter, if_neg (Nat.not_le.mpr room)]
  simp only [nextItem_ok 0 first, nextItem_ok 1 second, closeItems_nil, Bind.bind, Except.bind]
  rfl

theorem natural_nat {n : Nat} (small : n ≤ NumberText.wordLimit) (wanted : String) :
    natural wanted ctx (Value.nat n).node = .ok n := by
  have amount : NumberText.amount { whole := Number.digits n } = .natural n := by
    simp [NumberText.amount, NumberText.integral, Number.ofDigits_digits, small]
  rw [Value.nat, Value.node, natural, amount]

theorem word_node (n : UInt64) : word ctx (Value.word n).node = .ok n := by
  have small : n.toNat ≤ NumberText.wordLimit := Nat.le_of_lt_succ n.toNat_lt
  rw [Value.word, word, natural_nat small]
  exact congrArg Except.ok UInt64.ofNat_toNat

theorem optional_option {f : α → Value} {value : Option α}
    (decoded : ∀ a, d ctx (f a).node = .ok a) (some_node : ∀ a, (f a).node ≠ .null) :
    optional d ctx (Value.option f value).node = .ok value := by
  cases value with
  | none => rfl
  | some a =>
    rw [Value.option, optional, decoded a]
    · rfl
    · exact some_node a

end DeployPlan.Json
