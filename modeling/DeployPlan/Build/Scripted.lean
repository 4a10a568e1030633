import DeployPlan.Build.Service

/-!
A build system that answers from a script and keeps a log of its calls.
-/

namespace DeployPlan

inductive BuildCall where
  | definitions (url : Url) (scopes : List String) (filter : Option String)
  | builds (url : Url) (definitions : List UInt64)
  | artifacts (url : Url) (project : String) (buildNumber : String)
deriving DecidableEq, Repr, Inhabited

structure BuildScript where
  definitions : List BuildDefinition := []
  builds : List Build := []
  artifacts : List (String × List BuildArtifact) := []
  /-- Calls that fail, by their place in the order of calls. -/
  failures : List (Nat × String) := []
  /-- How long the calls take, in their order; the last one holds for all others. -/
  delays : List Duration := []
deriving Inhabited

structure ScriptedBuilds where
  script : BuildScript := {}
  calls : List BuildCall := []
deriving Inhabited

namespace ScriptedBuilds

def delay (s : ScriptedBuilds) (place : Nat) : Duration :=
  (s.script.delays[place]?.or s.script.delays.getLast?).getD ⟨0⟩

def answer {α : Type} (call : BuildCall) (a : BuildScript → α) : Call ScriptedBuilds α := fun s =>
  let place := s.calls.length
  let result :=
    match s.script.failures.lookup place with
    | some text => .error (.buildSystem (.other text))
    | none => .ok (a s.script)
  ⟨s.delay place, ⟨result, { s with calls := s.calls ++ [call] }, []⟩⟩

def service : BuildService ScriptedBuilds where
  definitions url scopes filter :=
    answer (.definitions url scopes (filter.map (·.text))) fun script =>
      script.definitions.filter fun d =>
        scopes.contains d.project && NameFilter.acceptsAll filter d.name
  builds url ds :=
    answer (.builds url (ds.map (·.id))) fun script =>
      script.builds.filter fun b => (ds.map (·.id)).contains b.definitionId
  artifacts url project b :=
    answer (.artifacts url project b.number) fun script =>
      (script.artifacts.lookup b.number).getD []

end ScriptedBuilds

end DeployPlan
