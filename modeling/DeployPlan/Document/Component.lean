import DeployPlan.Component
import DeployPlan.Json.Decoding
import DeployPlan.Json.Writing

/-!
Component trees as JSON documents.
-/

namespace DeployPlan.Component

open Json (Context Decoder Fields Node Value)

mutual
def json : Component → Value
  | ⟨n, s, cs⟩ =>
    .object [("name", .text n), ("script_path", .text s), ("children", .list (jsonOfAll cs))]

def jsonOfAll : List Component → List Value
  | [] => []
  | c :: cs => json c :: jsonOfAll cs
end

def fields (child : Decoder Component) : Fields (String × String × List Component × Unit) :=
  .cons "name" Json.text none <|
  .cons "script_path" Json.text (some "") <|
  .cons "children" (Json.list child) (some []) .nil

def decoderWithin : Nat → Decoder Component
  | 0 => fun _ _ => Json.refuse (.fault .malformed)
  | levels + 1 =>
    Json.record "Component" (fields (decoderWithin levels)) fun (n, s, cs, ()) => ⟨n, s, cs⟩

/-- Every level of a tree takes two levels of nesting, so the room bounds the levels. -/
def decoder : Decoder Component := fun ctx n =>
  decoderWithin (ctx.room + 1) ctx n

end DeployPlan.Component
