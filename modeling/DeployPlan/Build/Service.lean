import DeployPlan.Act
import DeployPlan.Artifact.Source
import DeployPlan.Build

/-!
What a build system is asked. Every call takes some time and ends with an answer or a failure; the
service keeps a state of type `σ` between calls.
-/

namespace DeployPlan

/-- How a call ends if nobody stops waiting for it, and after what time. -/
structure Reply (σ α : Type) where
  duration : Duration
  outcome : Outcome σ α

def Call (σ α : Type) : Type := σ → Reply σ α

structure BuildService (σ : Type) where
  definitions : Url → List String → Option NameFilter → Call σ (List BuildDefinition)
  builds : Url → List BuildDefinition → Call σ (List Build)
  artifacts : Url → String → Build → Call σ (List BuildArtifact)

structure Clocked (σ : Type) where
  state : σ
  now : Duration := ⟨0⟩

namespace Duration

def add (d e : Duration) : Duration := ⟨d.nanos + e.nanos⟩

def upTo (d : Duration) : Option Duration → Duration
  | none => d
  | some limit => if d.nanos ≤ limit.nanos then d else limit

end Duration

/-- How long a caller waits: for each call no longer than `limit`, and for no call beyond the instant
`cancelAt`. -/
structure Patience where
  limit : Option Duration := none
  cancelAt : Option Duration := none
deriving DecidableEq, Repr, Inhabited

namespace Patience

def isOver (w : Patience) (time : Duration) : Bool :=
  w.cancelAt.any fun c => c.nanos ≤ time.nanos

/-- Makes a call and waits for it. A call is not made when the work has been cancelled before; it is
given up when the limit or the instant of cancellation comes before its end, whichever is first. -/
def await {σ α : Type} (w : Patience) (call : Call σ α) : Act (Clocked σ) α := fun s =>
  if w.isOver s.now then ⟨.error .cancelled, s, []⟩
  else
    let reply := call s.state
    let finish := s.now.add (reply.duration.upTo w.limit)
    let result :=
      if w.isOver finish then .error .cancelled
      else
        match w.limit with
        | some limit =>
          if limit.nanos < reply.duration.nanos then .error (.timeout limit)
          else reply.outcome.result
        | none => reply.outcome.result
    ⟨result, ⟨reply.outcome.state, finish⟩, reply.outcome.events⟩

end Patience

def Act.timed {σ α : Type} (m : Act (Clocked σ) α) : Act σ α := fun s =>
  let o := m.run ⟨s, ⟨0⟩⟩
  ⟨o.result, o.state.state, o.events⟩

end DeployPlan
