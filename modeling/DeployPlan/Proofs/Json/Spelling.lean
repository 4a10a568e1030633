import DeployPlan.Proofs.Json.Grammar

/-!
The texts of a value. Numbers and texts are spelled as they are written, and blanks may stand around every
token; a text of a value is read back as that value, whatever its layout.
-/

namespace DeployPlan.Json

mutual
/-- A text of a value, without blanks around it. -/
inductive Spells : Value → List Char → Prop
  | null : Spells .null ['n', 'u', 'l', 'l']
  | bool (b : Bool) : Spells (.bool b) (writeBool b)
  | number {n : NumberText} : n.Legal → Spells (.number n) n.chars
  | text (s : String) : Spells (.text s) (quoted s)
  | list {items : List Value} {cs : List Char} :
      SpellsItems true items cs → Spells (.list items) ('[' :: cs)
  | object {members : List (String × Value)} {cs : List Char} :
      SpellsMembers true members cs → Spells (.object members) ('{' :: cs)

inductive SpellsItems : Bool → List Value → List Char → Prop
  | nil {first : Bool} {blanks : List Char} : Blank blanks → SpellsItems first [] (blanks ++ [']'])
  | cons {first : Bool} {v : Value} {vs : List Value} {before cs rest : List Char} :
      Separates first before → Spells v cs → SpellsItems false vs rest →
        SpellsItems first (v :: vs) (before ++ (cs ++ rest))

inductive SpellsMembers : Bool → List (String × Value) → List Char → Prop
  | nil {first : Bool} {blanks : List Char} :
      Blank blanks → SpellsMembers first [] (blanks ++ ['}'])
  | cons {first : Bool} {k : String} {v : Value} {ms : List (String × Value)}
      {before behind after cs rest : List Char} :
      Separates first before → Blank behind → Blank after → Spells v cs →
        SpellsMembers false ms rest →
          SpellsMembers first ((k, v) :: ms)
            (before ++ (quoted k ++ (behind ++ ':' :: (after ++ (cs ++ rest)))))
end

mutual
theorem Spells.node {v : Value} {cs : List Char} : Spells v cs → SpellsNode v.node cs
  | .null => .null
  | .bool b => .bool b
  | .number legal => .number (spellsNumber_chars legal)
  | .text s => by
    have text := SpellsNode.text (spellsText_quoted s)
    rwa [textNode, String.ofList_toList] at text
  | .list items => .list items.nodes
  | .object members => .object members.entries

theorem SpellsItems.nodes {first : Bool} {vs : List Value} {cs : List Char} :
    SpellsItems first vs cs → SpellsNodes first (Value.nodes vs) cs
  | .nil blank => .nil blank
  | .cons separates spells later => .cons separates spells.node later.nodes

theorem SpellsMembers.entries {first : Bool} {ms : List (String × Value)} {cs : List Char} :
    SpellsMembers first ms cs → SpellsEntries first (Value.memberNodes ms) cs
  | .nil blank => .nil blank
  | @SpellsMembers.cons _ k _ _ _ _ _ _ _ separates blank spaced spells later => by
    have entries := SpellsEntries.cons separates (spellsText_quoted k) blank spaced spells.node
      later.entries
    rwa [Option.map_some, String.ofList_toList] at entries
end

theorem Spells.read {v : Value} {cs : List Char} (spells : Spells v cs) (fuel : Nat)
    (rest : List Char) (enough : 3 * cs.length ≤ fuel + 1) (ends : Ends rest) :
    readValue (fuel + 1) (cs ++ rest) = (v.node, some rest) :=
  spells.node.read fuel rest enough ends

end DeployPlan.Json
