/-!
Runs of adjacent elements with equal keys. A run is read lazily: its end is found by looking at the
element that follows it, so at most one element beyond the runs asked for is consumed.
-/

namespace DeployPlan

variable {α κ : Type} [DecidableEq κ]

def takeRun (key : α → κ) (k : κ) : List α → List α × List α
  | [] => ([], [])
  | a :: as =>
    if key a = k then
      let (run, rest) := takeRun key k as
      (a :: run, rest)
    else ([], a :: as)

theorem takeRun_length (key : α → κ) (k : κ) (as : List α) :
    (takeRun key k as).1.length + (takeRun key k as).2.length = as.length := by
  induction as with
  | nil => rfl
  | cons a as ih =>
    simp only [takeRun]
    split
    · simp only [List.length_cons]; omega
    · simp

theorem takeRun_append (key : α → κ) (k : κ) (as : List α) :
    (takeRun key k as).1 ++ (takeRun key k as).2 = as := by
  induction as with
  | nil => rfl
  | cons a as ih =>
    simp only [takeRun]
    split
    · simp [ih]
    · rfl

def runs (key : α → κ) : List α → List (κ × List α)
  | [] => []
  | a :: as =>
    (key a, a :: (takeRun key (key a) as).1) :: runs key (takeRun key (key a) as).2
termination_by as => as.length
decreasing_by
  have := takeRun_length key (key a) as
  simp only [List.length_cons]; omega

/-- A source that is read run by run: what is left of it, whether its next element has been looked
at already, and how many elements were consumed. -/
structure RunReader (α : Type) where
  rest : List α
  peeked : Bool := false
  pulled : Nat := 0
deriving Repr

namespace RunReader

def ofList (as : List α) : RunReader α := { rest := as }

/-- The next run. The element after it, if there is one, has been consumed as well. -/
def next (key : α → κ) (r : RunReader α) : Option (κ × List α) × RunReader α :=
  match r.rest with
  | [] => (none, r)
  | a :: as =>
    let (run, rest) := takeRun key (key a) as
    let first := if r.peeked then 0 else 1
    let beyond := if rest.isEmpty then 0 else 1
    (some (key a, a :: run), ⟨rest, !rest.isEmpty, r.pulled + first + run.length + beyond⟩)

def take (key : α → κ) : Nat → RunReader α → List (κ × List α) × RunReader α
  | 0, r => ([], r)
  | n + 1, r =>
    match r.next key with
    | (none, r) => ([], r)
    | (some run, r) =>
      let (runs, r) := take key n r
      (run :: runs, r)

end RunReader

end DeployPlan
