import Mathlib.Data.List.Chain
import DeployPlan.Runs

/-!
Runs are maximal: put together they give the list back, a run has one key, and the next run has
another one.
-/

namespace DeployPlan

variable {α κ : Type}

/-- A cut of `as` into non-empty pieces of equal key, none of which goes on in the next piece. -/
structure MaximalRuns (key : α → κ) (as : List α) (pieces : List (List α)) : Prop where
  flatten_eq : pieces.flatten = as
  ne_nil : ∀ piece ∈ pieces, piece ≠ []
  same_key : ∀ piece ∈ pieces, ∀ a ∈ piece, ∀ b ∈ piece, key a = key b
  cut : pieces.IsChain fun piece next => ∀ a ∈ piece, ∀ b ∈ next, key a ≠ key b

variable [DecidableEq κ]

theorem takeRun_key (key : α → κ) (k : κ) (as : List α) : ∀ a ∈ (takeRun key k as).1, key a = k := by
  induction as with
  | nil => simp [takeRun]
  | cons a as ih =>
    rw [takeRun]
    split
    · rename_i same
      simpa [same] using ih
    · simp

theorem takeRun_rest (key : α → κ) (k : κ) (as : List α) :
    ∀ a ∈ (takeRun key k as).2.head?, key a ≠ k := by
  induction as with
  | nil => simp [takeRun]
  | cons a as ih =>
    rw [takeRun]
    split
    · exact ih
    · rename_i other
      simpa using other

theorem runs_flatten (key : α → κ) (as : List α) : (runs key as).flatMap (·.2) = as := by
  fun_induction runs key as with
  | case1 => rfl
  | case2 a as ih => rw [List.flatMap_cons, ih, List.cons_append, takeRun_append]

theorem runs_key (key : α → κ) (as : List α) :
    ∀ run ∈ runs key as, run.2 ≠ [] ∧ ∀ a ∈ run.2, key a = run.1 := by
  fun_induction runs key as with
  | case1 => simp
  | case2 a as ih =>
    refine List.forall_mem_cons.mpr ⟨⟨List.cons_ne_nil _ _, ?_⟩, ih⟩
    exact List.forall_mem_cons.mpr ⟨rfl, takeRun_key key (key a) as⟩

theorem runs_head_key (key : α → κ) (as : List α) :
    ∀ run ∈ (runs key as).head?, ∃ a ∈ as.head?, run.1 = key a := by
  cases as with
  | nil => simp [runs]
  | cons a as => simp [runs]

theorem runs_cut (key : α → κ) (as : List α) :
    (runs key as).IsChain fun run next => run.1 ≠ next.1 := by
  fun_induction runs key as with
  | case1 => exact .nil
  | case2 a as ih =>
    refine List.isChain_cons.mpr ⟨?_, ih⟩
    intro next first
    obtain ⟨b, hb, same⟩ := runs_head_key key _ next first
    rw [same]
    exact (takeRun_rest key (key a) as b hb).symm

theorem runs_maximal (key : α → κ) (as : List α) :
    MaximalRuns key as ((runs key as).map (·.2)) where
  flatten_eq := runs_flatten key as
  ne_nil := List.forall_mem_map.mpr fun run member => (runs_key key as run member).1
  same_key := by
    refine List.forall_mem_map.mpr fun run member a ha b hb => ?_
    have keyed := (runs_key key as run member).2
    rw [keyed a ha, keyed b hb]
  cut := by
    rw [List.isChain_map]
    refine (runs_cut key as).imp_of_mem_imp ?_
    intro run next member member' other a ha b hb
    rw [(runs_key key as run member).2 a ha, (runs_key key as next member').2 b hb]
    exact other

end DeployPlan
