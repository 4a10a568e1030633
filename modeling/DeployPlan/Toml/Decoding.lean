import DeployPlan.Json.Decoding
import DeployPlan.Text.Pieces
import DeployPlan.Toml.Reading

/-!
Decoding TOML documents with the decoders of `Json.Decoding`. A complaint names the line of the value
it is about, or the line where the text stops being well formed, and shows it with its neighbours.
-/

namespace DeployPlan.Toml

open Json (Node)

mutual
/-- A tree as a document. A date or time counts as an object nobody knows the members of. -/
def Tree.node : Tree → Node
  | .text s => .text s
  | .integer n => (Json.Value.int n).node
  | .float f => .float f
  | .bool b => .bool b
  | .moment => .object [] none
  | .list items => .list (itemNodes items) none
  | .table _ entries => .object (entryNodes entries) none
  | .tables elements => .list (itemNodes elements) none

def itemNodes : List (Mark × Tree) → List Node
  | [] => []
  | (_, t) :: rest => t.node :: itemNodes rest

def entryNodes : List (String × Mark × Tree) → List (Option String × Node)
  | [] => []
  | (name, _, t) :: rest => (some name, t.node) :: entryNodes rest
end

/-- The mark of the innermost value that steps from a tree at `m` lead to. -/
def placeOf (m : Mark) : Tree → List Json.Step → Mark
  | _, [] => m
  | .table _ entries, .field name :: steps =>
    match entries.lookup name with
    | some (m, t) => placeOf m t steps
    | none => m
  | .list items, .item i :: steps | .tables items, .item i :: steps =>
    match items[i]? with
    | some (m, t) => placeOf m t steps
    | none => m
  | _, _ => m

/-- What is wrong with a text. Without a problem of its data it is not well formed. -/
structure Complaint where
  text : List Char
  line : Nat
  problem : Option Json.Problem
deriving Repr

def Complaint.message (c : Complaint) : String :=
  "TOML parsing error at line " ++ Number.text c.line ++ ":\n" ++
    String.ofList (Text.joinChars ['\n'] (excerpt c.text c.line)) ++ "\n\nError:" ++
    (match c.problem with
      | none => ""
      | some p => " " ++ p.message)

def decode {α : Type} (d : Json.Decoder α) (s : String) : Except Complaint α :=
  let cs := s.toList
  match read cs with
  | .error m => .error ⟨cs, lineOfMark cs m, none⟩
  | .ok t =>
    match d .ofTable (Tree.table .header t).node with
    | .ok a => .ok a
    | .error c =>
      let m := placeOf cs.length (.table .header t) c.place
      .error ⟨cs, lineOfMark cs m, some c.problem⟩

end DeployPlan.Toml
