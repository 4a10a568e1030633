import DeployPlan.Document.Variable
import DeployPlan.Proofs.Json.Compact
import DeployPlan.Proofs.Json.Nesting
import DeployPlan.Proofs.Json.Record

/-!
Written variables. A variable is read back from every text of it that nests no deeper than documents may,
whichever of its two members stands first; a value that comes before its kind is held back, and holding it
back loses nothing.
-/

namespace DeployPlan.Variable

open Json (Context Decoder Node Source Spells Value)

def tagged (swapped : Bool) (kind : Kind) (value : Value) : Value :=
  if swapped then .object [("value", value), ("kind", .text kind.name)]
  else .object [("kind", .text kind.name), ("value", value)]

mutual
/-- A JSON form of a variable. At every level the members may be swapped or not. -/
inductive Written : Variable → Value → Prop
  | scalar (swapped : Bool) (s : String) : Written (.scalar s) (tagged swapped .scalar (.text s))
  | array (swapped : Bool) (ss : List String) : Written (.array ss) (tagged swapped .array (.texts ss))
  | table (swapped : Bool) {rows : List Record} {vs : List Value} :
      WrittenRows rows vs → Written (.table rows) (tagged swapped .table (.list vs))

inductive WrittenRows : List Record → List Value → Prop
  | nil : WrittenRows [] []
  | cons {r : Record} {rows : List Record} {fields vs : List Value} :
      WrittenFields r fields → WrittenRows rows vs →
        WrittenRows (r :: rows) (.object [("fields", .list fields)] :: vs)

inductive WrittenFields : Record → List Value → Prop
  | nil : WrittenFields [] []
  | cons (name : String) {v : Variable} {j : Value} {r : Record} {js : List Value} :
      Written v j → WrittenFields r js → WrittenFields ((name, v) :: r) (.list [.text name, j] :: js)
end

mutual
theorem written_json : ∀ v : Variable, Written v v.json
  | .scalar s => .scalar false s
  | .array ss => .array false ss
  | .table rows => .table false (written_jsonOfRows rows)

theorem written_jsonOfRows : ∀ rows : List (List (String × Variable)), WrittenRows rows (jsonOfRows rows)
  | [] => .nil
  | r :: rows => .cons (written_jsonOfFields r) (written_jsonOfRows rows)

theorem written_jsonOfFields : ∀ r : List (String × Variable), WrittenFields r (jsonOfFields r)
  | [] => .nil
  | (name, v) :: r => .cons name (written_json v) (written_jsonOfFields r)
end

theorem numberless_tagged {value : Value} (swapped : Bool) (kind : Kind) (numberless : value.Numberless) :
    (tagged swapped kind value).Numberless := by
  cases swapped with
  | false => exact ⟨trivial, numberless, trivial⟩
  | true => exact ⟨numberless, trivial, trivial⟩

theorem nesting_tagged (swapped : Bool) (kind : Kind) (value : Value) :
    (tagged swapped kind value).nesting = value.nesting + 1 := by
  cases swapped <;> simp [tagged, Value.nesting, Value.nestingOfMembers]

mutual
theorem Written.nesting_eq :
    ∀ {v : Variable} {j : Value}, Written v j → j.nesting = v.json.nesting
  | _, _, .scalar swapped s => nesting_tagged swapped _ _
  | _, _, .array swapped ss => nesting_tagged swapped _ _
  | .table rows, _, .table swapped written => by
    have kept := nesting_tagged false .table (.list (jsonOfRows rows))
    rw [Value.nesting] at kept
    rw [nesting_tagged, Value.nesting, written.nesting_eq]
    exact kept.symm

theorem WrittenRows.nesting_eq : ∀ {rows : List Record} {vs : List Value}, WrittenRows rows vs →
    Value.nestingOfItems vs = Value.nestingOfItems (jsonOfRows rows)
  | _, _, .nil => rfl
  | _, _, .cons fields rows => by
    simp only [jsonOfRows, Value.nestingOfItems, Value.nesting, Value.nestingOfMembers, fields.nesting_eq,
      rows.nesting_eq]

theorem WrittenFields.nesting_eq : ∀ {r : Record} {js : List Value}, WrittenFields r js →
    Value.nestingOfItems js = Value.nestingOfItems (jsonOfFields r)
  | _, _, .nil => rfl
  | _, _, .cons _ v r => by
    simp only [jsonOfFields, Value.nestingOfItems, Value.nesting, v.nesting_eq, r.nesting_eq]
end

mutual
theorem Written.numberless : ∀ {v : Variable} {j : Value}, Written v j → j.Numberless
  | _, _, .scalar swapped _ => numberless_tagged swapped _ trivial
  | _, _, .array swapped ss => numberless_tagged swapped _ (Value.itemsNumberless_texts ss)
  | _, _, .table swapped rows => numberless_tagged swapped _ rows.numberless

theorem WrittenRows.numberless :
    ∀ {rows : List Record} {vs : List Value}, WrittenRows rows vs → Value.ItemsNumberless vs
  | _, _, .nil => trivial
  | _, _, .cons fields rows => ⟨⟨fields.numberless, trivial⟩, rows.numberless⟩

theorem WrittenFields.numberless :
    ∀ {r : Record} {js : List Value}, WrittenFields r js → Value.ItemsNumberless js
  | _, _, .nil => trivial
  | _, _, .cons _ v r => ⟨⟨trivial, v.numberless, trivial⟩, r.numberless⟩
end

/- Holding back. -/

mutual
theorem hold_node : ∀ {v : Value} {room : Nat}, v.Numberless → v.nesting < room → hold room v.node = .ok ()
  | .null, _, _, _ => by simp only [Value.node, hold]
  | .bool _, _, _, _ => by simp only [Value.node, hold]
  | .number _, _, impossible, _ => impossible.elim
  | .text _, _, _, _ => by simp only [Value.node, hold]
  | .list vs, room, numberless, low => by
    rw [Value.nesting] at low
    rw [Value.node, hold, if_neg (by omega)]
    exact holdItems_nodes numberless (by omega)
  | .object ms, room, numberless, low => by
    rw [Value.nesting] at low
    rw [Value.node, hold, if_neg (by omega)]
    exact holdMembers_memberNodes numberless (by omega)

theorem holdItems_nodes : ∀ {vs : List Value} {room : Nat}, Value.ItemsNumberless vs →
    Value.nestingOfItems vs < room → holdItems room none (Value.nodes vs) = .ok ()
  | [], _, _, _ => by rw [Value.nodes, holdItems]
  | v :: vs, room, ⟨first, later⟩, low => by
    rw [Value.nestingOfItems, Nat.max_lt] at low
    rw [Value.nodes, holdItems, hold_node first low.1]
    exact holdItems_nodes later low.2

theorem holdMembers_memberNodes : ∀ {ms : List (String × Value)} {room : Nat},
    Value.MembersNumberless ms → Value.nestingOfMembers ms < room →
      holdMembers room none (Value.memberNodes ms) = .ok ()
  | [], _, _, _ => by rw [Value.memberNodes, holdMembers]
  | (name, v) :: ms, room, ⟨first, later⟩, low => by
    rw [Value.nestingOfMembers, Nat.max_lt] at low
    rw [Value.memberNodes, holdMembers, hold_node first low.1]
    exact holdMembers_memberNodes later low.2
end

/- Decoding. -/

variable {levels : Nat} {ctx : Context}

theorem kindDecoder_name (kind : Kind) : kindDecoder ctx (.text kind.name) = .ok kind := by
  obtain ⟨source, room⟩ := ctx
  cases source <;> cases kind <;> rfl

section Members

variable {field : Decoder Variable} {kind : Kind} {n : Node} {v : Variable}
  {ms : List (Option String × Node)}

theorem members_kind : members field ctx none .nothing ((some "kind", .text kind.name) :: ms) =
    members field ctx none (.kind kind) ms := by
  rw [members.eq_def]
  simp only [if_true, kindDecoder_name]
  rfl

theorem members_value_first (held : hold ctx.room n = .ok ()) :
    members field ctx none .nothing ((some "value", n) :: ms) = members field ctx none (.value n) ms := by
  rw [members.eq_def]
  simp only [String.reduceEq, if_false, if_true, held]
  rfl

theorem members_value (decoded : valueDecoder field kind ctx n = .ok v) :
    members field ctx none (.kind kind) ((some "value", n) :: ms) =
      members field ctx none (.done v) ms := by
  rw [members.eq_def]
  simp only [String.reduceEq, if_false, if_true, decoded]
  rfl

theorem members_kind_late (decoded : valueDecoder field kind { ctx with source := .held } n = .ok v) :
    members field ctx none (.value n) ((some "kind", .text kind.name) :: ms) =
      members field ctx none (.done v) ms := by
  rw [members.eq_def]
  simp only [if_true, kindDecoder_name]
  change ((valueDecoder field kind { ctx with source := .held } n) >>= _) = _
  rw [decoded]
  rfl

end Members

theorem decoderWithin_tagged {kind : Kind} {value : Value} {v : Variable} (swapped : Bool)
    (numberless : value.Numberless) (room : value.nesting + 1 < ctx.room)
    (decoded : ∀ source,
      valueDecoder (decoderWithin levels) kind ⟨source, ctx.room - 1⟩ value.node = .ok v) :
    decoderWithin (levels + 1) ctx (tagged swapped kind value).node = .ok v := by
  have enters : ¬ ctx.room ≤ 1 := by omega
  have held : hold (ctx.room - 1) value.node = .ok () := hold_node numberless (by omega)
  cases swapped with
  | false =>
    change Json.enter ctx (fun ctx => members (decoderWithin levels) ctx none .nothing
      [(some "kind", .text kind.name), (some "value", value.node)]) = _
    rw [Json.enter, if_neg enters, members_kind, members_value (decoded ctx.source)]
    rfl
  | true =>
    -- The value is checked while it is held back, and decoded once its kind is known.
    change Json.enter ctx (fun ctx => members (decoderWithin levels) ctx none .nothing
      [(some "value", value.node), (some "kind", .text kind.name)]) = _
    rw [Json.enter, if_neg enters, members_value_first held, members_kind_late (decoded .held)]
    rfl

theorem decoder_row {field : Decoder Variable} {r : Record} {fields : List Value} (room : 2 < ctx.room)
    (decoded : Json.items (Json.pair Json.text field) { ctx with room := ctx.room - 2 } none 0
      (Value.nodes fields) = .ok r) :
    rowDecoder field ctx (Value.object [("fields", .list fields)]).node = .ok r := by
  have enters : 1 < ctx.room - 1 := by omega
  have items : Json.list (Json.pair Json.text field) { ctx with room := ctx.room - 1 }
      (Value.list fields).node = .ok r := by
    rw [Json.list_node enters]
    exact decoded
  exact Json.record_object "VariableRecord" _ (by omega) (.cons items (by simp) .nil)

theorem items_field {field : Decoder Variable} {index : Nat} {name : String} {v : Variable} {j : Value}
    {r : Record} {js : List Value} (room : 1 < ctx.room)
    (decoded : field { ctx with room := ctx.room - 1 } j.node = .ok v)
    (later : Json.items (Json.pair Json.text field) ctx none (index + 1) (Value.nodes js) = .ok r) :
    Json.items (Json.pair Json.text field) ctx none index (Value.nodes (.list [.text name, j] :: js)) =
      .ok ((name, v) :: r) := by
  rw [Value.nodes, Json.items, Json.pair_node room rfl decoded, later]
  rfl

-- The recursion is on the form. A variable in another one takes one of the levels and five of the room, so
-- the levels never run out first.
mutual
theorem Written.decoded : ∀ {v : Variable} {j : Value}, Written v j → ∀ {levels : Nat} {ctx : Context},
    j.nesting < ctx.room → ctx.room ≤ levels + 1 → decoderWithin (levels + 1) ctx j.node = .ok v
  | _, _, .scalar swapped s, levels, ctx, low, deep => by
    rw [nesting_tagged] at low
    exact decoderWithin_tagged swapped trivial low fun source => rfl
  | _, _, .array swapped ss, levels, ctx, low, deep => by
    rw [nesting_tagged] at low
    refine decoderWithin_tagged swapped (Value.itemsNumberless_texts ss) low fun source => ?_
    rw [Value.texts, Value.listOf, Value.nesting] at low
    change (Json.list Json.text _ (Value.listOf Value.text ss).node).map array = _
    rw [Json.list_listOf (by simp only; omega) fun s _ => rfl]
    rfl
  | _, _, .table swapped rows, levels, ctx, low, deep => by
    rw [nesting_tagged] at low
    refine decoderWithin_tagged swapped rows.numberless low fun source => ?_
    rw [Value.nesting] at low
    change (Json.list (rowDecoder (decoderWithin levels)) _ _).map table = _
    rw [Json.list_node (by simp only; omega), rows.decoded (by simp only; omega) (by simp only; omega)]
    rfl

theorem WrittenRows.decoded : ∀ {rows : List Record} {vs : List Value}, WrittenRows rows vs →
    ∀ {levels : Nat} {ctx : Context} {index : Nat}, Value.nestingOfItems vs < ctx.room → ctx.room ≤ levels →
      Json.items (rowDecoder (decoderWithin levels)) ctx none index (Value.nodes vs) = .ok rows
  | _, _, .nil, _, _, _, _, _ => rfl
  | _, _, .cons fields rows, levels, ctx, index, low, deep => by
    rw [Value.nestingOfItems, Nat.max_lt] at low
    obtain ⟨here, later⟩ := low
    rw [Value.nesting, Value.nestingOfMembers, Value.nestingOfMembers, Value.nesting] at here
    have decoded : rowDecoder (decoderWithin levels) ctx _ = .ok _ :=
      decoder_row (by omega) (fields.decoded (by simp only; omega) (by simp only; omega))
    rw [Value.nodes, Json.items, decoded, rows.decoded later deep]
    rfl

theorem WrittenFields.decoded : ∀ {r : Record} {js : List Value}, WrittenFields r js →
    ∀ {levels : Nat} {ctx : Context} {index : Nat}, Value.nestingOfItems js < ctx.room → ctx.room ≤ levels →
      Json.items (Json.pair Json.text (decoderWithin levels)) ctx none index (Value.nodes js) = .ok r
  | _, _, .nil, _, _, _, _, _ => rfl
  | _, _, .cons name v r, levels, ctx, index, low, deep => by
    rw [Value.nestingOfItems, Nat.max_lt] at low
    obtain ⟨here, later⟩ := low
    rw [Value.nesting, Value.nestingOfItems, Value.nestingOfItems, Value.nestingOfItems] at here
    obtain ⟨levels, rfl⟩ := Nat.exists_eq_add_one_of_ne_zero (show levels ≠ 0 by omega)
    exact items_field (by omega) (v.decoded (by simp only; omega) (by simp only; omega))
      (r.decoded later deep)
end

theorem WrittenFields.decoded_anew : ∀ {r : Record} {js : List Value}, WrittenFields r js →
    ∀ {ctx : Context} {index : Nat}, Value.nestingOfItems js < ctx.room →
      Json.items (Json.pair Json.text decoder) ctx none index (Value.nodes js) = .ok r
  | _, _, .nil, _, _, _ => rfl
  | _, _, .cons name v r, ctx, index, low => by
    rw [Value.nestingOfItems, Nat.max_lt] at low
    obtain ⟨here, later⟩ := low
    rw [Value.nesting, Value.nestingOfItems, Value.nestingOfItems, Value.nestingOfItems] at here
    exact items_field (by omega) (v.decoded (by simp only; omega) (by simp only; omega))
      (r.decoded_anew later)

theorem Written.decodeText {v : Variable} {j : Value} {text : String} (written : Written v j)
    (low : v.json.nesting < Context.ofStream.room) (spells : Spells j text.toList) :
    Json.decodeText decoder text = .ok v := by
  rw [← written.nesting_eq] at low
  have decoded : decoder .ofStream j.node = .ok v := written.decoded low (Nat.le_succ _)
  rw [Json.decodeText_spelled decoder spells, decoded]
  rfl

end DeployPlan.Variable

namespace DeployPlan.Record

open Json (Context Spells Value)
open Variable (WrittenFields)

inductive Written : Record → Value → Prop
  | mk {r : Record} {fields : List Value} :
      WrittenFields r fields → Written r (.object [("fields", .list fields)])

theorem written_json (r : Record) : Written r r.json :=
  .mk (Variable.written_jsonOfFields r)

theorem Written.numberless {r : Record} {j : Value} : Written r j → j.Numberless
  | .mk fields => ⟨fields.numberless, trivial⟩

theorem Written.nesting_eq {r : Record} {j : Value} : Written r j → j.nesting = r.json.nesting
  | .mk fields => by
    simp only [json, Value.nesting, Value.nestingOfMembers, fields.nesting_eq]

theorem Written.decodeText {r : Record} {j : Value} {text : String} (written : Written r j)
    (low : r.json.nesting < Context.ofStream.room) (spells : Spells j text.toList) :
    Json.decodeText decoder text = .ok r := by
  rw [← written.nesting_eq] at low
  obtain ⟨fields⟩ := written
  rw [Value.nesting, Value.nestingOfMembers, Value.nestingOfMembers, Value.nesting] at low
  have decoded : decoder .ofStream (Value.object [("fields", .list _)]).node = .ok r :=
    Variable.decoder_row (by decide) (fields.decoded_anew (by simp only; omega))
  rw [Json.decodeText_spelled decoder spells, decoded]
  rfl

end DeployPlan.Record
