import DeployPlan.Json.Number
import DeployPlan.Json.Writing
import DeployPlan.Number.Shortest

/-!
One text for all spellings of a value. Members stand in the order of their names, of two members of
one name the last one counts, and numbers are spelled in one way. Whole numbers and floats differ.
-/

namespace DeployPlan.Json

/-- Puts a member in its place; one of the same name is already there when it is to be kept. -/
def placeMember (m : String × List Char) : List (String × List Char) → List (String × List Char)
  | [] => [m]
  | n :: ns =>
    if m.1 = n.1 then n :: ns
    else if m.1 < n.1 then m :: n :: ns
    else n :: placeMember m ns

def canonicalNumber (n : NumberText) : List Char :=
  match n.amount with
  | .natural n => Number.digits n
  | .negative n => '-' :: Number.digits n.natAbs
  | .float f => if f == 0 then ['0', '.', '0'] else (Number.compactText f).toList
  | .outOfRange => n.chars

mutual
def canonical : Value → List Char
  | .number n => canonicalNumber n
  | .list items => '[' :: canonicalItems items
  | .object members =>
    '{' :: ((canonicalMembers members).flatMap (fun m => quoted m.1 ++ ':' :: m.2 ++ [',']) ++ ['}'])
  | .null => compact .null
  | .bool b => writeBool b
  | .text s => quoted s

def canonicalItems : List Value → List Char
  | [] => [']']
  | v :: vs => canonical v ++ ',' :: canonicalItems vs

def canonicalMembers : List (String × Value) → List (String × List Char)
  | [] => []
  | (k, v) :: ms => placeMember (k, canonical v) (canonicalMembers ms)
end

def Value.canonicalText (v : Value) : String :=
  String.ofList (canonical v)

end DeployPlan.Json
