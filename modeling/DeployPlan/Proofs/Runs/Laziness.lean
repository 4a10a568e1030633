import DeployPlan.Proofs.Runs.Batches

/-!
How much of its source a reader consumes. Every element that was consumed is in a run that was handed
out, but for one that was looked at to find the end of the last run. The count that a reader keeps is
that of a reader which asks its source for one element after the other.
-/

namespace DeployPlan

variable {α κ β σ τ : Type}

def answers (next : σ → Option β × σ) : Nat → σ → List (Option β)
  | 0, _ => []
  | n + 1, s => (next s).1 :: answers next n (next s).2

def stateAfter (next : σ → Option β × σ) : Nat → σ → σ
  | 0, s => s
  | n + 1, s => stateAfter next n (next s).2

theorem answers_eq_of_follows {next : σ → Option β × σ} {next' : τ → Option β × τ} {R : σ → τ → Prop}
    (follow : ∀ s t, R s t → (next s).1 = (next' t).1 ∧ R (next s).2 (next' t).2) (n : Nat)
    {s : σ} {t : τ} (start : R s t) :
    answers next n s = answers next' n t ∧ R (stateAfter next n s) (stateAfter next' n t) := by
  induction n generalizing s t with
  | zero => exact ⟨rfl, start⟩
  | succ n ih =>
    obtain ⟨same, later⟩ := follow s t start
    obtain ⟨rest, final⟩ := ih later
    rw [answers, answers, same, rest]
    exact ⟨rfl, final⟩

variable [DecidableEq κ] {key : α → κ}

/-! Element by element -/

/-- A source that is asked for one element after the other. `ahead` is what it has answered already and
nobody has taken yet: an element, or that it has none left. -/
structure Lookahead (α : Type) where
  rest : List α
  ahead : Option (Option α) := none
  pulled : Nat := 0

namespace Lookahead

def ofList (as : List α) : Lookahead α := { rest := as }

def pull (l : Lookahead α) : Option α × Lookahead α :=
  match l.rest with
  | [] => (none, l)
  | a :: as => (some a, { l with rest := as, pulled := l.pulled + 1 })

def next (l : Lookahead α) : Option α × Lookahead α :=
  match l.ahead with
  | some seen => (seen, { l with ahead := none })
  | none => l.pull

def nextIf (wanted : α → Bool) (l : Lookahead α) : Option α × Lookahead α :=
  match l.next with
  | (some a, l) => if wanted a then (some a, l) else (none, { l with ahead := some (some a) })
  | (none, l) => (none, { l with ahead := some none })

def left (l : Lookahead α) : List α :=
  l.ahead.join.toList ++ l.rest

theorem left_nextIf {wanted : α → Bool} {l : Lookahead α} {a : α} {l' : Lookahead α}
    (taken : l.nextIf wanted = (some a, l')) : l.left = a :: l'.left := by
  obtain ⟨rest, ahead, pulled⟩ := l
  unfold nextIf at taken
  cases ahead with
  | none =>
    cases rest with
    | nil => simp [next, pull] at taken
    | cons b rest =>
      simp only [next, pull] at taken
      split at taken
      · cases taken
        rfl
      · cases taken
  | some seen =>
    cases seen with
    | none => simp [next] at taken
    | some b =>
      simp only [next] at taken
      split at taken
      · cases taken
        rfl
      · cases taken

def collect (key : α → κ) (k : κ) (l : Lookahead α) : List α × Lookahead α :=
  match _ : l.nextIf (key · = k) with
  | (none, l) => ([], l)
  | (some a, l) =>
    let (more, l) := collect key k l
    (a :: more, l)
termination_by l.left.length
decreasing_by
  rename_i taken
  rw [left_nextIf taken, List.length_cons]
  exact Nat.lt_succ_self _

/-- The next run: an element, and those after it with the same key. -/
def nextRun (key : α → κ) (l : Lookahead α) : Option (κ × List α) × Lookahead α :=
  match l.next with
  | (none, l) => (none, l)
  | (some a, l) =>
    let (more, l) := l.collect key (key a)
    (some (key a, a :: more), l)

theorem collect_unseen (key : α → κ) (k : κ) (as : List α) (pulled : Nat) :
    collect key k ⟨as, none, pulled⟩ =
      ((takeRun key k as).1, ⟨(takeRun key k as).2.tail, some (takeRun key k as).2.head?,
        pulled + (takeRun key k as).1.length + if (takeRun key k as).2.isEmpty then 0 else 1⟩) := by
  -- The element that ends the run has been pulled as well and is kept ahead.
  induction as generalizing pulled with
  | nil =>
    rw [collect]
    rfl
  | cons a as ih =>
    by_cases same : key a = k
    · have taken : nextIf (key · = k) ⟨a :: as, none, pulled⟩ = (some a, ⟨as, none, pulled + 1⟩) := by
        simp [nextIf, next, pull, same]
      rw [collect]
      split
      · rename_i refused
        rw [taken] at refused
        cases refused
      · rename_i more
        rw [taken] at more
        cases more
        simp only [ih, takeRun, if_pos same, List.length_cons]
        congr 2
        omega
    · have refused : nextIf (key · = k) ⟨a :: as, none, pulled⟩ =
          (none, ⟨as, some (some a), pulled + 1⟩) := by
        simp [nextIf, next, pull, same]
      rw [collect]
      split
      · rename_i last
        rw [refused] at last
        cases last
        simp [takeRun, same]
      · rename_i more
        rw [refused] at more
        cases more

end Lookahead

namespace RunReader

/-- The reader has what the source has left and has counted what was asked for. -/
structure Follows (l : Lookahead α) (r : RunReader α) : Prop where
  rest_eq : r.rest = l.left
  peeked_eq : r.peeked = l.ahead.join.isSome
  pulled_eq : r.pulled = l.pulled
  ended : l.ahead = some none → l.rest = []

theorem follows_ofList (as : List α) : Follows (.ofList as) (.ofList as) :=
  ⟨rfl, rfl, rfl, by rintro ⟨⟩⟩

theorem follows_looked (rest : List α) (pulled : Nat) :
    Follows ⟨rest.tail, some rest.head?, pulled⟩ ⟨rest, !rest.isEmpty, pulled⟩ := by
  cases rest with
  | nil => exact ⟨rfl, rfl, rfl, fun _ => rfl⟩
  | cons a rest => exact ⟨rfl, rfl, rfl, by rintro ⟨⟩⟩

theorem Follows.next (key : α → κ) {l : Lookahead α} {r : RunReader α} (follows : Follows l r) :
    (l.nextRun key).1 = (r.next key).1 ∧ Follows (l.nextRun key).2 (r.next key).2 := by
  obtain ⟨rest, peeked, pulled⟩ := r
  obtain ⟨source, ahead, asked⟩ := l
  obtain ⟨rest_eq, peeked_eq, pulled_eq, ended⟩ := follows
  simp only at rest_eq peeked_eq pulled_eq ended
  subst rest_eq peeked_eq pulled_eq
  rcases ahead with - | - | a
  · -- Nothing was looked at.
    cases source with
    | nil => exact ⟨rfl, rfl, rfl, rfl, by rintro ⟨⟩⟩
    | cons a source =>
      simp only [Lookahead.nextRun, Lookahead.next, Lookahead.pull, Lookahead.collect_unseen]
      exact ⟨rfl, follows_looked _ _⟩
  · -- The end was looked at.
    obtain rfl := ended rfl
    exact ⟨rfl, rfl, rfl, rfl, by rintro ⟨⟩⟩
  · simp only [Lookahead.nextRun, Lookahead.next, Lookahead.collect_unseen]
    exact ⟨rfl, follows_looked _ _⟩

/-! Run by run -/

theorem next_cons (key : α → κ) (a : α) (as : List α) (peeked : Bool) (pulled : Nat) :
    next key ⟨a :: as, peeked, pulled⟩ =
      (some (key a, a :: (takeRun key (key a) as).1),
        ⟨(takeRun key (key a) as).2, !(takeRun key (key a) as).2.isEmpty,
          pulled + (!peeked).toNat + (takeRun key (key a) as).1.length +
            (!(takeRun key (key a) as).2.isEmpty).toNat⟩) := by
  rcases cut : takeRun key (key a) as with ⟨run, - | ⟨b, rest⟩⟩ <;> cases peeked <;>
    simp [next, cut]

theorem answers_eq (key : α → κ) (n : Nat) (r : RunReader α) :
    answers (next key) n r =
      ((runs key r.rest).take n).map some ++ List.replicate (n - (runs key r.rest).length) none := by
  induction n generalizing r with
  | zero => simp [answers]
  | succ n ih =>
    obtain ⟨rest, peeked, pulled⟩ := r
    cases rest with
    | nil => simp [answers, next, ih, runs, List.replicate_succ]
    | cons a as =>
      rw [answers, next_cons, ih, runs]
      simp

theorem take_eq_stateAfter (key : α → κ) (n : Nat) (r : RunReader α) :
    r.take key n = ((runs key r.rest).take n, stateAfter (next key) n r) := by
  refine Prod.ext (take_eq n r) ?_
  induction n generalizing r with
  | zero => rfl
  | succ n ih =>
    obtain ⟨rest, peeked, pulled⟩ := r
    cases rest with
    | nil =>
      -- Asking on changes nothing.
      rw [stateAfter, ← ih]
      cases n <;> rfl
    | cons a as =>
      rw [stateAfter, ← ih]
      rfl

theorem ended_of_rest (key : α → κ) {r : RunReader α} (none : r.rest = []) (n : Nat) :
    answers (next key) n r = List.replicate n Option.none ∧
      (stateAfter (next key) n r).pulled = r.pulled := by
  have fixed : stateAfter (next key) n r = r := by
    obtain ⟨rest, peeked, pulled⟩ := r
    obtain rfl : rest = [] := none
    induction n with
    | zero => rfl
    | succ n ih => exact ih
  rw [fixed, answers_eq, none]
  simp [runs]

theorem append_rest_stateAfter (key : α → κ) (n : Nat) (r : RunReader α) :
    ((runs key r.rest).take n).flatMap (·.2) ++ (stateAfter (next key) n r).rest = r.rest := by
  induction n generalizing r with
  | zero => rfl
  | succ n ih =>
    obtain ⟨rest, peeked, pulled⟩ := r
    cases rest with
    | nil =>
      have later := ih ⟨[], peeked, pulled⟩
      rw [runs, List.take_nil] at later ⊢
      exact later
    | cons a as =>
      have later := ih (next key ⟨a :: as, peeked, pulled⟩).2
      simp only [next_cons] at later
      rw [stateAfter, next_cons, runs, List.take_succ_cons, List.flatMap_cons, List.append_assoc, later]
      exact congrArg (a :: ·) (takeRun_append key (key a) as)

def Sound (r : RunReader α) : Prop :=
  r.peeked = true → r.rest ≠ []

def unseen (r : RunReader α) : Nat :=
  r.rest.length - r.peeked.toNat

theorem Sound.peeked_next {r : RunReader α} (sound : r.Sound) (key : α → κ) :
    (r.next key).2.peeked = !(r.next key).2.rest.isEmpty := by
  obtain ⟨rest, peeked, pulled⟩ := r
  cases rest with
  | nil =>
    cases peeked with
    | false => rfl
    | true => exact absurd rfl (sound rfl)
  | cons a as => rfl

theorem sound_of_peeked {r : RunReader α} (looked : r.peeked = !r.rest.isEmpty) : r.Sound := by
  intro peeked none
  rw [looked, none] at peeked
  cases peeked

theorem conserved_next (key : α → κ) (r : RunReader α) :
    (r.next key).2.pulled + (r.next key).2.unseen = r.pulled + r.unseen := by
  obtain ⟨rest, peeked, pulled⟩ := r
  cases rest with
  | nil => rfl
  | cons a as =>
    have whole := takeRun_length key (key a) as
    simp only [next_cons, unseen, List.length_cons]
    cases peeked <;> cases beyond : (takeRun key (key a) as).2 <;>
      simp only [beyond, List.length_nil, List.length_cons] at whole <;>
      simp <;> omega

theorem conserved_stateAfter (key : α → κ) (n : Nat) (r : RunReader α) :
    (stateAfter (next key) n r).pulled + (stateAfter (next key) n r).unseen = r.pulled + r.unseen := by
  induction n generalizing r with
  | zero => rfl
  | succ n ih => exact (ih _).trans (conserved_next key r)

theorem Sound.peeked_stateAfter {r : RunReader α} (sound : r.Sound) (key : α → κ) (n : Nat) :
    (stateAfter (next key) (n + 1) r).peeked = !(stateAfter (next key) (n + 1) r).rest.isEmpty := by
  induction n generalizing r with
  | zero => exact sound.peeked_next key
  | succ n ih => exact ih (sound_of_peeked (sound.peeked_next key))

theorem pulled_stateAfter (key : α → κ) (as : List α) (n : Nat) :
    (stateAfter (next key) (n + 1) (.ofList as)).pulled =
      min as.length ((((runs key as).take (n + 1)).flatMap (·.2)).length + 1) := by
  have sound : (RunReader.ofList as).Sound := by rintro ⟨⟩
  have looked := sound.peeked_stateAfter key n
  have kept : _ = 0 + as.length := conserved_stateAfter key (n + 1) (.ofList as)
  have whole : _ = as.length :=
    congrArg List.length (append_rest_stateAfter key (n + 1) (.ofList as))
  rw [List.length_append] at whole
  rw [unseen, looked] at kept
  change List.length (((runs key as).take (n + 1)).flatMap _) + _ = _ at whole
  cases rest : (stateAfter (next key) (n + 1) (RunReader.ofList as)).rest <;>
    simp only [rest, List.length_nil, List.length_cons, List.isEmpty_nil, List.isEmpty_cons,
      Bool.not_true, Bool.not_false, Bool.toNat_true, Bool.toNat_false] at kept whole <;>
    omega

end RunReader

def Ended (next : σ → Option β × σ) (pulled : σ → Nat) (s : σ) : Prop :=
  ∀ more, answers next more s = List.replicate more none ∧ pulled (stateAfter next more s) = pulled s

/-- A reader of `as` that hands out its runs one by one. It asks for no more of the source than it takes
to see where a run ends, and for nothing once it has come to the end. -/
structure ReadsLazily (key : α → κ) (as : List α) (next : σ → Option (κ × List α) × σ)
    (pulled : σ → Nat) (start : σ) : Prop where
  answers_eq (n : Nat) : answers next n start =
    ((runs key as).take n).map some ++ List.replicate (n - (runs key as).length) none
  untouched : pulled start = 0
  pulled_eq (n : Nat) : pulled (stateAfter next (n + 1) start) =
    min as.length ((((runs key as).take (n + 1)).flatMap (·.2)).length + 1)
  ended (n : Nat) : (runs key as).length ≤ n → Ended next pulled (stateAfter next n start)

theorem RunReader.readsLazily (key : α → κ) (as : List α) :
    ReadsLazily key as (RunReader.next key) RunReader.pulled (.ofList as) where
  answers_eq n := RunReader.answers_eq key n (.ofList as)
  untouched := rfl
  pulled_eq := pulled_stateAfter key as
  ended n all := by
    have whole := append_rest_stateAfter key n (.ofList as)
    change ((runs key as).take n).flatMap (·.2) ++ _ = as at whole
    rw [List.take_of_length_le all, runs_flatten] at whole
    exact ended_of_rest key (List.append_right_eq_self.mp whole)

theorem Lookahead.readsLazily (key : α → κ) (as : List α) :
    ReadsLazily key as (Lookahead.nextRun key) Lookahead.pulled (.ofList as) := by
  have lazy := RunReader.readsLazily key as
  have inStep (n : Nat) {l : Lookahead α} {r : RunReader α} (follows : RunReader.Follows l r) :=
    answers_eq_of_follows (fun _ _ follows => RunReader.Follows.next key follows) n follows
  have start := RunReader.follows_ofList as
  -- In step with a lazy reader, this one hands out and consumes the same.
  refine ⟨fun n => ?_, rfl, fun n => ?_, fun n all more => ?_⟩
  · rw [(inStep n start).1, lazy.answers_eq]
  · rw [← lazy.pulled_eq, (inStep (n + 1) start).2.pulled_eq]
  · have follows := (inStep n start).2
    obtain ⟨silent, kept⟩ := lazy.ended n all more
    rw [(inStep more follows).1, silent, ← (inStep more follows).2.pulled_eq, kept, follows.pulled_eq]
    exact ⟨rfl, rfl⟩

/-- After any number of calls the runs handed out are the first ones of the whole list, and what was
consumed is these runs and one element more, if there is one; calls beyond the last run consume nothing
and hand out nothing. It makes no difference whether a reader takes run by run or asks its source for
one element after the other. -/
theorem readers_lazy (key : α → κ) (as : List α) :
    ReadsLazily key as (RunReader.next key) RunReader.pulled (.ofList as) ∧
      ReadsLazily key as (Lookahead.nextRun key) Lookahead.pulled (.ofList as) ∧
      ∀ n, (RunReader.ofList as).take key n =
        ((runs key as).take n, stateAfter (RunReader.next key) n (.ofList as)) :=
  ⟨RunReader.readsLazily key as, Lookahead.readsLazily key as,
    fun n => RunReader.take_eq_stateAfter key n (.ofList as)⟩

example : (stateAfter (RunReader.next (· / 10)) 1 (.ofList [11, 12, 21, 13])).pulled = 3 := by decide

end DeployPlan
