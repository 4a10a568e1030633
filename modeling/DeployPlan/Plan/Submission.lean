import DeployPlan.Act
import DeployPlan.Document.Request
import DeployPlan.Document.Topology

/-!
Submitting a plan. A gateway keeps a state and answers each request with a number or a failure. The
requests of a plan are handed over one after another; the first failure ends it.
-/

namespace DeployPlan

structure Particulars where
  targetEnvironment : String
  requestedBy : String
  requestedAt : Instant
  batchIndex : Nat
  batchCount : Nat
deriving DecidableEq, Repr, Inhabited

def Particulars.json (p : Particulars) : Json.Value :=
  .object [("target_environment", .text p.targetEnvironment),
    ("requested_by", .text p.requestedBy), ("requested_at", .text p.requestedAt.text),
    ("batch_index", .nat p.batchIndex), ("batch_count", .nat p.batchCount)]

def Particulars.decoder : Json.Decoder Particulars :=
  Json.record "SubmissionMetadata"
    (.cons "target_environment" Json.text none <| .cons "requested_by" Json.text none <|
      .cons "requested_at" Instant.decoder none <| .cons "batch_index" Json.size none <|
      .cons "batch_count" Json.size none .nil)
    fun (t, b, w, i, n, ()) => ⟨t, b, w, i, n⟩

structure Gateway (σ : Type) where
  submit : String → Particulars → σ → Except Failure Nat × σ

/-- Hands over the requests from place `index` on; `issued` has the numbers so far. -/
def submitFrom {σ : Type} (g : Gateway σ) (sender : String) (time : Instant) (count : Nat) :
    Nat → List Nat → List DeploymentRequest → Act σ (List Nat)
  | _, issued, [] => return issued
  | index, issued, r :: rest => fun s =>
    let (answer, s) := g.submit r.write ⟨r.environment, sender, time, index, count⟩ s
    match answer with
    | .ok id =>
      (do
        Act.report (.submitted id index r.build.buildNumber)
        submitFrom g sender time count (index + 1) (issued ++ [id]) rest : Act σ (List Nat)).run s
    | .error e =>
      if issued.isEmpty then (Act.fail e : Act σ (List Nat)).run s
      else
        (do
          Act.report (.submissionStopped index e.message)
          Act.fail (.partialSubmission issued e) : Act σ (List Nat)).run s

def submitPlan {σ : Type} (g : Gateway σ) (plan : List DeploymentRequest) (requestedBy : String)
    (requestedAt : Instant) : Act σ (List Nat) :=
  submitFrom g requestedBy requestedAt plan.length 0 [] plan

structure SubmittedRequest where
  id : Nat
  serialized : String
  particulars : Particulars
deriving DecidableEq, Repr, Inhabited

structure Outbox where
  records : List SubmittedRequest := []
deriving DecidableEq, Repr, Inhabited

def Outbox.add (o : Outbox) (text : String) (p : Particulars) : Nat × Outbox :=
  let id := o.records.length + 1
  (id, ⟨o.records ++ [⟨id, text, p⟩]⟩)

def Outbox.gateway : Gateway Outbox where
  submit text p o :=
    let (id, o) := o.add text p
    (.ok id, o)

def Outbox.boundedGateway (limit : Option Nat) : Gateway Outbox where
  submit text p o :=
    match limit with
    | some n =>
      if o.records.length ≥ n then (.error (.store "database unavailable"), o)
      else Outbox.gateway.submit text p o
    | none => Outbox.gateway.submit text p o

end DeployPlan
