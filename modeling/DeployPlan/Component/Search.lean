import DeployPlan.Component
import DeployPlan.Failure

/-!
Bounded walks over a forest. Roots have depth 1; the first component below the bound, in declaration
order, ends a walk that reaches it.
-/

namespace DeployPlan.Component

def defaultMaxDepth : Nat := 64

def within (limit : Nat) (roots : List Component) : Except Failure (List Component) :=
  go (withDepthsOfAll 1 roots)
where
  go : List (Nat × Component) → Except Failure (List Component)
    | [] => .ok []
    | (depth, c) :: rest =>
      if depth > limit then .error (.treeTooDeep c.name limit)
      else (go rest).map (c :: ·)

mutual
/-- The first component of that name, unless a component below the bound comes before it. The search is
depth first and stops at the first match. -/
def findAt (limit depth : Nat) (name : String) : List Component → Except Failure (Option Component)
  | [] => .ok none
  | c :: cs =>
    match findBelow limit depth name c with
    | .ok none => findAt limit depth name cs
    | answer => answer

def findBelow (limit depth : Nat) (name : String) : Component → Except Failure (Option Component)
  | ⟨n, script, cs⟩ =>
    if depth > limit then .error (.treeTooDeep n limit)
    else if n = name then .ok (some ⟨n, script, cs⟩)
    else findAt limit (depth + 1) name cs
end

def findNamed (limit : Nat) (name : String) (roots : List Component) :
    Except Failure (Option Component) :=
  findAt limit 1 name roots

mutual
def containsAt (limit depth : Nat) (name : String) : List Component → Except Failure Bool
  | [] => .ok false
  | c :: cs =>
    match containsBelow limit depth name c with
    | .ok false => containsAt limit depth name cs
    | answer => answer

def containsBelow (limit depth : Nat) (name : String) : Component → Except Failure Bool
  | ⟨n, _, cs⟩ =>
    if depth > limit then .error (.treeTooDeep n limit)
    else if n = name then .ok true
    else containsAt limit (depth + 1) name cs
end

def contains (limit : Nat) (name : String) (roots : List Component) : Except Failure Bool :=
  containsAt limit 1 name roots

mutual
/-- Visits a forest in declaration order; `met` has the names collected so far. The name of a
deployable component is added unless it is there already, and its children are visited in any case. -/
def collectAt (limit depth : Nat) (met : List String) : List Component → Except Failure (List String)
  | [] => .ok met
  | c :: cs =>
    match collectBelow limit depth met c with
    | .ok met => collectAt limit depth met cs
    | .error e => .error e

def collectBelow (limit depth : Nat) (met : List String) : Component → Except Failure (List String)
  | ⟨n, script, cs⟩ =>
    if depth > limit then .error (.treeTooDeep n limit)
    else if script.isEmpty || met.contains n then collectAt limit (depth + 1) met cs
    else collectAt limit (depth + 1) (met ++ [n]) cs
end

def deployableNames (limit : Nat) (roots : List Component) : Except Failure (List String) :=
  collectAt limit 1 [] roots

end DeployPlan.Component
