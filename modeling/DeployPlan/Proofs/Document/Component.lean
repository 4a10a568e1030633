import DeployPlan.Component.Search
import DeployPlan.Document.Component
import DeployPlan.Proofs.Component.Depth
import DeployPlan.Proofs.Json.Compact
import DeployPlan.Proofs.Json.Refusal

/-!
Written component trees. A component is an object that holds a list, so a tree nests twice as deep as
it is high, and the bound on nesting is met one level before the bound that planning has by default.
-/

namespace DeployPlan.Component

open Json (Context Problem RefusedFor Spells Value)

variable {levels : Nat} {ctx : Context} {c : Component}

theorem jsonOfAll_eq (cs : List Component) : jsonOfAll cs = cs.map json := by
  induction cs with
  | nil => rfl
  | cons c cs ih => rw [jsonOfAll, ih, List.map_cons]

theorem json_eq (c : Component) :
    c.json = .object [("name", .text c.name), ("script_path", .text c.scriptPath),
      ("children", .listOf json c.children)] := by
  obtain ⟨name, script, children⟩ := c
  rw [json, jsonOfAll_eq]
  rfl

theorem height_eq (c : Component) : c.height = 1 + heightOfAll c.children := by
  cases c
  rw [height]

theorem legal_json (c : Component) : c.json.Legal := by
  have forest (cs : List Component) : ∀ c ∈ cs, c.json.Legal := by
    induction cs using forest_induction with
    | nil => simp
    | cons c cs below others =>
      refine List.forall_mem_cons.mpr ⟨?_, others⟩
      have children := Value.legal_listOf below
      rw [json_eq]
      exact ⟨trivial, trivial, children, trivial⟩
  exact forest [c] c List.mem_cons_self

def tooDeep : Problem :=
  .fault .malformed

theorem decoderWithin_succ (room : 2 < ctx.room)
    (below : ∀ child ∈ c.children,
      decoderWithin levels { ctx with room := ctx.room - 1 - 1 } child.json.node = .ok child) :
    decoderWithin (levels + 1) ctx c.json.node = .ok c := by
  have children : Json.list (decoderWithin levels) { ctx with room := ctx.room - 1 }
      (Value.listOf json c.children).node = .ok c.children :=
    Json.list_listOf (by simp only; omega) below
  have fills : Json.Fills { ctx with room := ctx.room - 1 } (fields (decoderWithin levels))
      [("name", .text c.name), ("script_path", .text c.scriptPath),
        ("children", .listOf json c.children)] (c.name, c.scriptPath, c.children, ()) :=
    .cons rfl (by simp) <| .cons rfl (by simp) <| .cons children (by simp) .nil
  have enters : 1 < ctx.room := by omega
  rw [json_eq, decoderWithin, Json.record_object "Component" _ enters fills]
  cases c
  rfl

theorem decoderWithin_succ_refused
    (below : 2 < ctx.room → RefusedFor tooDeep
      (Json.items (decoderWithin levels) { ctx with room := ctx.room - 1 - 1 } none 0
        (Value.nodes (c.children.map json)))) :
    RefusedFor tooDeep (decoderWithin (levels + 1) ctx c.json.node) := by
  rw [json_eq, decoderWithin, fields]
  refine Json.record_refused "Component" _ fun _ => ?_
  have children : RefusedFor tooDeep (Json.list (decoderWithin levels)
      { ctx with room := ctx.room - 1 } (Value.listOf json c.children).node) := by
    refine Json.list_refused fun enters => below ?_
    simp only at enters
    omega
  exact .later rfl (by simp) <| .later rfl (by simp) <| .here children

theorem exists_highest {limit : Nat} (high : limit + 1 < c.height) :
    ∃ child ∈ c.children, limit < child.height := by
  rw [height_eq] at high
  exact lt_heightOfAll_iff.mp (by omega)

theorem decoderWithin_json (deep : ctx.room < levels) :
    (2 * c.height < ctx.room → decoderWithin levels ctx c.json.node = .ok c) ∧
      (ctx.room ≤ 2 * c.height → RefusedFor tooDeep (decoderWithin levels ctx c.json.node)) := by
  -- Each level of components takes two levels of the document.
  induction levels generalizing ctx c with
  | zero => exact absurd deep (Nat.not_lt_zero _)
  | succ levels ih =>
    have tall := height_eq c
    let inner : Context := { ctx with room := ctx.room - 1 - 1 }
    have room_inner : inner.room = ctx.room - 1 - 1 := rfl
    constructor
    · intro low
      refine decoderWithin_succ (by omega) fun child member => ?_
      have lower : child.height ≤ heightOfAll c.children := by
        by_contra higher
        exact absurd (lt_heightOfAll_iff.mpr ⟨child, member, Nat.lt_of_not_le higher⟩)
          (Nat.lt_irrefl _)
      exact (@ih inner child (by omega)).1 (by omega)
    · intro high
      refine decoderWithin_succ_refused fun room => Json.items_refused 0 ?_ ?_
      · intro child _
        have either := @ih inner child (by omega)
        rcases Nat.lt_or_ge (2 * child.height) inner.room with low | high
        · exact .inl (either.1 low)
        · exact .inr (either.2 high)
      · have below : c.height - 2 + 1 < c.height := by omega
        obtain ⟨child, member, highest⟩ := exists_highest below
        exact ⟨child, member, (@ih inner child (by omega)).2 (by omega)⟩

theorem decoder_json :
    (2 * c.height < ctx.room → decoder ctx c.json.node = .ok c) ∧
      (ctx.room ≤ 2 * c.height → RefusedFor tooDeep (decoder ctx c.json.node)) :=
  decoderWithin_json (Nat.lt_succ_self ctx.room)

theorem height_le_iff {limit : Nat} :
    c.height ≤ limit ↔ ∀ path, Path [c] path → path.length ≤ limit := by
  have single : heightOfAll [c] = c.height := by
    rw [heightOfAll, heightOfAll, Nat.max_eq_left (Nat.zero_le _)]
  rw [← single]
  exact heightOfAll_le_iff

theorem decodeText_low {text : String} (spells : Spells c.json text.toList)
    (low : c.height < defaultMaxDepth) : Json.decodeText decoder text = .ok c := by
  have room : 2 * c.height < Context.ofStream.room := by
    have limits : Context.ofStream.room = 2 * defaultMaxDepth := rfl
    omega
  have decoded := decoder_json.1 room
  rw [Json.decodeText_spelled decoder spells, decoded]
  rfl

theorem decodeText_high {text : String} (spells : Spells c.json text.toList)
    (high : defaultMaxDepth ≤ c.height) :
    Json.decodeText decoder text = .error tooDeep := by
  have room : Context.ofStream.room ≤ 2 * c.height := by
    have limits : Context.ofStream.room = 2 * defaultMaxDepth := rfl
    omega
  obtain ⟨place, refused⟩ := decoder_json.2 room
  rw [Json.decodeText_spelled decoder spells, refused]
  rfl

/-- A tree that nowhere reaches the default bound is read back from every text of it, in one line,
indented or laid out otherwise. Every text of a tree that reaches it is refused. -/
theorem read_written (c : Component) :
    Spells c.json c.json.compactText.toList ∧ Spells c.json c.json.indentedText.toList ∧
      ∀ text : String, Spells c.json text.toList →
        ((∀ path, Path [c] path → path.length < defaultMaxDepth) →
          Json.decodeText decoder text = .ok c) ∧
        ((∃ path, Path [c] path ∧ defaultMaxDepth ≤ path.length) →
          Json.decodeText decoder text = .error (.fault .malformed)) := by
  have legal := legal_json c
  refine ⟨?_, ?_, fun text spells => ⟨fun short => ?_, fun long => ?_⟩⟩
  · rw [Value.compactText, String.toList_ofList]
    exact Json.spells_compact legal
  · rw [Value.indentedText, String.toList_ofList]
    exact Json.spells_indented legal 0
  · have low : c.height ≤ defaultMaxDepth - 1 := height_le_iff.mpr fun path descends =>
      Nat.le_sub_one_of_lt (short path descends)
    exact decodeText_low spells (Nat.lt_of_le_of_lt low (by decide))
  · obtain ⟨path, descends, reaches⟩ := long
    have bounded : path.length ≤ c.height := height_le_iff.mp (Nat.le_refl _) path descends
    exact decodeText_high spells (Nat.le_trans reaches bounded)

def nested : Nat → Component
  | 0 => leaf "leaf" "leaf.sh"
  | n + 1 => folder "level" [nested n]

theorem height_nested (levels : Nat) : (nested levels).height = levels + 1 := by
  induction levels with
  | zero => rfl
  | succ levels ih =>
    have below : (nested (levels + 1)).children = [nested levels] := rfl
    rw [height_eq, below, heightOfAll, heightOfAll, ih]
    omega

/-- A tree with paths as long as the default bound allows is not read back. -/
theorem nested_not_read :
    (∀ path, Path [nested 63] path → path.length ≤ defaultMaxDepth) ∧
      Json.decodeText decoder (nested 63).json.compactText = .error (.fault .malformed) := by
  have tall := height_nested 63
  constructor
  · exact height_le_iff.mp (Nat.le_of_eq tall)
  · refine decodeText_high ?_ (Nat.le_of_eq tall.symm)
    rw [Value.compactText, String.toList_ofList]
    exact Json.spells_compact (legal_json _)

end DeployPlan.Component
