import DeployPlan.Stores

/-!
Ordering by declared dependencies. Components come in declaration order, except that each one is
preceded by the selected components it depends on. Dependencies outside the selection are ignored.
-/

namespace DeployPlan

/-- Declared dependencies, oldest first: the first component has to be deployed after the second. -/
structure Dependencies where
  declared : List (String × String) := []
deriving DecidableEq, Repr, Inhabited

namespace Dependencies

def add (d : Dependencies) (component dependency : String) : Dependencies :=
  ⟨d.declared ++ [(component, dependency)]⟩

def of (d : Dependencies) (component : String) : List String :=
  d.declared.filterMap fun (c, dependency) => if c = component then some dependency else none

/-- Places `name` behind all it depends on. `path` leads from a component to `name` along
dependencies, `placed` has the names placed so far. A path without repetition has no more names than
the selection, so `fuel` never runs out. -/
def visit (d : Dependencies) (selected : List String) :
    Nat → List String → List String → String → Except Failure (List String)
  | 0, _, _, name => .error (.invalid (.dependencyCycle name))
  | fuel + 1, path, placed, name =>
    if placed.contains name then .ok placed
    else if path.contains name then .error (.invalid (.dependencyCycle name))
    else do
      let before ← ((d.of name).filter selected.contains).foldlM
        (fun placed dependency => visit d selected fuel (name :: path) placed dependency) placed
      return before ++ [name]

def arrange (d : Dependencies) (selected : List String) : Except Failure (List String) :=
  selected.foldlM (fun placed name => visit d selected (selected.length + 1) [] placed name) []

end Dependencies

def firstOfEachName : List Component → List Component
  | [] => []
  | c :: cs => c :: (firstOfEachName cs).filter (·.name != c.name)

def Dependencies.ordering (d : Dependencies) (projects : ProjectStore) : OrderingProvider :=
  fun project names => do
    let roots ← projects.roots project.id
    let declared ← Component.within Component.defaultMaxDepth roots
    let selected := (firstOfEachName declared).filter (names.contains ·.name)
    match (nameSet names).find? fun n => !selected.any (·.name == n) with
    | some missing => throw (.componentNotFound missing)
    | none =>
      let placed ← d.arrange (selected.map (·.name))
      return placed.filterMap fun n => selected.find? (·.name == n)

end DeployPlan
