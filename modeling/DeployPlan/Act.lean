import DeployPlan.Failure
import DeployPlan.Reporting

/-!
Work that may fail, reports events, and changes a state `σ`. A failure ends the work; the state and
the events up to it are kept. `Act.result_bind` and its companions follow each of the three parts
through a sequence of steps.
-/

namespace DeployPlan

structure Outcome (σ α : Type) where
  result : Except Failure α
  state : σ
  events : List Event

def Act (σ α : Type) : Type := σ → Outcome σ α

namespace Act

variable {σ α β : Type}

def run (m : Act σ α) (s : σ) : Outcome σ α := m s

def pure (a : α) : Act σ α := fun s => ⟨.ok a, s, []⟩

def bind (m : Act σ α) (f : α → Act σ β) : Act σ β := fun s =>
  let first := m s
  match first.result with
  | .error e => ⟨.error e, first.state, first.events⟩
  | .ok a =>
    let second := f a first.state
    ⟨second.result, second.state, first.events ++ second.events⟩

instance : Monad (Act σ) where
  pure := pure
  bind := bind

def fail (e : Failure) : Act σ α := fun s => ⟨.error e, s, []⟩

def report (e : Event) : Act σ Unit := fun s => ⟨.ok (), s, [e]⟩

def ofExcept : Except Failure α → Act σ α
  | .ok a => pure a
  | .error e => fail e

def get : Act σ σ := fun s => ⟨.ok s, s, []⟩

def modify (f : σ → σ) : Act σ Unit := fun s => ⟨.ok (), f s, []⟩

def step (f : σ → Except Failure α × σ) : Act σ α := fun s =>
  let (r, s) := f s
  ⟨r, s, []⟩

def beside (m : Act Unit α) : Act σ α := fun s =>
  let o := m ()
  ⟨o.result, s, o.events⟩

@[simp] theorem result_pure (a : α) (s : σ) :
    ((Pure.pure a : Act σ α).run s).result = .ok a := rfl

@[simp] theorem state_pure (a : α) (s : σ) : ((Pure.pure a : Act σ α).run s).state = s := rfl

@[simp] theorem result_fail (e : Failure) (s : σ) :
    ((fail e : Act σ α).run s).result = .error e := rfl

@[simp] theorem result_report (e : Event) (s : σ) : ((report e).run s).result = .ok () := rfl

@[simp] theorem result_ofExcept (r : Except Failure α) (s : σ) :
    ((ofExcept r).run s).result = r := by
  cases r <;> rfl

@[simp] theorem state_report (e : Event) (s : σ) : ((report e).run s).state = s := rfl

@[simp] theorem state_ofExcept (r : Except Failure α) (s : σ) :
    ((ofExcept r).run s).state = s := by
  cases r <;> rfl

theorem result_bind (m : Act σ α) (f : α → Act σ β) (s : σ) :
    ((m >>= f).run s).result =
      (m.run s).result.bind fun a => ((f a).run (m.run s).state).result := by
  change ((bind m f) s).result = _
  simp only [bind, run]
  cases h : (m s).result <;> rfl

theorem state_bind (m : Act σ α) (f : α → Act σ β) (s : σ) :
    ((m >>= f).run s).state =
      match (m.run s).result with
      | .ok a => ((f a).run (m.run s).state).state
      | .error _ => (m.run s).state := by
  change ((bind m f) s).state = _
  simp only [bind, run]
  cases h : (m s).result <;> rfl

@[simp] theorem result_beside (m : Act Unit α) (s : σ) :
    ((beside m).run s).result = (m.run ()).result := rfl

@[simp] theorem state_beside (m : Act Unit α) (s : σ) : ((beside m).run s).state = s := rfl

end Act

end DeployPlan
