/-!
Component trees. A component is deployable when it has a script; a component without one only
groups its children.
-/

namespace DeployPlan

structure Component where
  name : String
  scriptPath : String := ""
  children : List Component := []
deriving Repr, Inhabited

namespace Component

def leaf (name scriptPath : String) : Component :=
  ⟨name, scriptPath, []⟩

def folder (name : String) (children : List Component) : Component :=
  ⟨name, "", children⟩

def deployable (c : Component) : Bool :=
  !c.scriptPath.isEmpty

mutual
def same : Component → Component → Bool
  | ⟨n, s, cs⟩, ⟨m, t, ds⟩ => n == m && s == t && sameList cs ds

def sameList : List Component → List Component → Bool
  | [], [] => true
  | c :: cs, d :: ds => same c d && sameList cs ds
  | _, _ => false
end

mutual
theorem same_iff : ∀ c d : Component, same c d = true ↔ c = d
  | ⟨n, s, cs⟩, ⟨m, t, ds⟩ => by
    simp [same, sameList_iff cs ds, and_assoc]

theorem sameList_iff : ∀ cs ds : List Component, sameList cs ds = true ↔ cs = ds
  | [], [] => by simp [sameList]
  | [], _ :: _ => by simp [sameList]
  | _ :: _, [] => by simp [sameList]
  | c :: cs, d :: ds => by simp [sameList, same_iff c d, sameList_iff cs ds]
end

instance : DecidableEq Component := fun c d =>
  decidable_of_iff (same c d = true) (same_iff c d)

mutual
def height : Component → Nat
  | ⟨_, _, cs⟩ => 1 + heightOfAll cs

def heightOfAll : List Component → Nat
  | [] => 0
  | c :: cs => max (height c) (heightOfAll cs)
end

mutual
def withDepths (depth : Nat) : Component → List (Nat × Component)
  | ⟨n, s, cs⟩ => (depth, ⟨n, s, cs⟩) :: withDepthsOfAll (depth + 1) cs

def withDepthsOfAll (depth : Nat) : List Component → List (Nat × Component)
  | [] => []
  | c :: cs => withDepths depth c ++ withDepthsOfAll depth cs
end

/-- All components of a forest in declaration order: a parent, then its children's trees. -/
def preOrder (roots : List Component) : List Component :=
  (withDepthsOfAll 1 roots).map (·.2)

end Component

end DeployPlan
