import Mathlib.Data.List.Infix
import DeployPlan.Proofs.Runs

/-!
The runs of a list are its only cut into keyed batches, and a reader that is asked again and again
hands out these batches, whatever it has looked at before.
-/

namespace DeployPlan

variable {α κ : Type} {key : α → κ}

/-- A cut of `as` into non-empty groups. Each carries the key of its elements, and the next one has
another key. -/
structure Batches (key : α → κ) (as : List α) (groups : List (κ × List α)) : Prop where
  flatten_eq : groups.flatMap (·.2) = as
  ne_nil : ∀ group ∈ groups, group.2 ≠ []
  keyed : ∀ group ∈ groups, ∀ a ∈ group.2, key a = group.1
  cut : groups.IsChain fun group next => group.1 ≠ next.1

def EndsBetween (groups : List (κ × List α)) (before after : List α) : Prop :=
  ∃ left right, groups = left ++ right ∧
    before <+: left.flatMap (·.2) ∧ after <:+ right.flatMap (·.2)

namespace Batches

variable {as : List α} {group : κ × List α} {groups : List (κ × List α)}

theorem nil_iff : Batches key as [] ↔ as = [] := by
  constructor
  · intro batches
    exact batches.flatten_eq.symm
  · rintro rfl
    exact ⟨rfl, by simp, by simp, .nil⟩

theorem tail (batches : Batches key as (group :: groups)) :
    Batches key (groups.flatMap (·.2)) groups where
  flatten_eq := rfl
  ne_nil := fun later member => batches.ne_nil later (List.mem_cons_of_mem _ member)
  keyed := fun later member => batches.keyed later (List.mem_cons_of_mem _ member)
  cut := batches.cut.tail

theorem head?_rest (batches : Batches key as (group :: groups)) :
    ∀ a ∈ (groups.flatMap (·.2)).head?, key a ≠ group.1 := by
  cases groups with
  | nil => simp
  | cons next groups =>
    intro a first
    have filled : next.2 ≠ [] := batches.ne_nil next (by simp)
    rw [List.flatMap_cons, List.head?_append_of_ne_nil _ filled] at first
    have member := List.mem_of_mem_head? first
    have other : group.1 ≠ next.1 := (List.isChain_cons_cons.mp batches.cut).1
    rw [batches.keyed next (by simp) a member]
    exact other.symm

theorem ends_between (batches : Batches key as groups) {u v w : List α} {a b c : α}
    (split : as = u ++ a :: (v ++ c :: w)) (between : b ∈ v) (other : key b ≠ key a) :
    EndsBetween groups (u ++ [a]) (c :: w) := by
  induction groups generalizing as u with
  | nil =>
    have empty := nil_iff.mp batches
    rw [empty] at split
    simp at split
  | cons group groups ih =>
    have whole := batches.flatten_eq
    rw [List.flatMap_cons, split, List.append_eq_append_iff] at whole
    rcases whole with ⟨u', rfl, rest⟩ | ⟨front, first, rest⟩
    · -- The group ends before `a`.
      obtain ⟨left, right, rfl, before, behind⟩ := ih batches.tail rest
      refine ⟨group :: left, right, rfl, ?_, behind⟩
      rw [List.flatMap_cons, List.append_assoc]
      exact (List.prefix_append_right_inj group.2).mpr before
    · cases front with
      | nil =>
        -- The group ends right before `a`.
        rw [List.nil_append] at rest
        obtain ⟨left, right, rfl, before, behind⟩ :=
          ih (u := []) batches.tail (by rw [← rest]; rfl)
        refine ⟨group :: left, right, rfl, ?_, behind⟩
        rw [List.append_nil] at first
        rw [List.flatMap_cons, first]
        exact (List.prefix_append_right_inj u).mpr before
      | cons a' front =>
        -- The group holds `a`, so it ends before `b`.
        rw [List.cons_append] at rest
        obtain ⟨rfl, beyond⟩ := List.cons.inj rest
        have keyed := batches.keyed group List.mem_cons_self
        rw [first] at keyed
        have same : key a = group.1 := keyed a (by simp)
        refine ⟨[group], groups, rfl, ⟨front, by simp [first]⟩, ?_⟩
        rcases List.append_eq_append_iff.mp beyond with ⟨front', rfl, -⟩ | ⟨v', -, behind⟩
        · exact absurd ((keyed b (by simp [between])).trans same.symm) other
        · rw [behind]
          exact List.suffix_append v' (c :: w)

end Batches

variable [DecidableEq κ]

theorem batches_runs (key : α → κ) (as : List α) : Batches key as (runs key as) where
  flatten_eq := runs_flatten key as
  ne_nil := fun run member => (runs_key key as run member).1
  keyed := fun run member => (runs_key key as run member).2
  cut := runs_cut key as

theorem takeRun_of_keyed {k : κ} {run rest : List α} (keyed : ∀ a ∈ run, key a = k)
    (other : ∀ a ∈ rest.head?, key a ≠ k) : takeRun key k (run ++ rest) = (run, rest) := by
  induction run with
  | nil =>
    cases rest with
    | nil => rfl
    | cons a rest => simp [takeRun, other a rfl]
  | cons a run ih =>
    obtain ⟨same, later⟩ := List.forall_mem_cons.mp keyed
    simp [takeRun, same, ih later]

theorem Batches.eq_runs {as : List α} {groups : List (κ × List α)}
    (batches : Batches key as groups) : groups = runs key as := by
  induction groups generalizing as with
  | nil =>
    rw [nil_iff.mp batches]
    simp [runs]
  | cons group groups ih =>
    have whole := batches.flatten_eq
    have other := batches.head?_rest
    have keyed := batches.keyed group List.mem_cons_self
    have filled := batches.ne_nil group List.mem_cons_self
    have later := ih batches.tail
    obtain ⟨k, elements⟩ := group
    obtain ⟨a, run, rfl⟩ := List.exists_cons_of_ne_nil filled
    obtain ⟨same, keyed⟩ := List.forall_mem_cons.mp keyed
    obtain rfl : key a = k := same
    rw [List.flatMap_cons, List.cons_append] at whole
    have taken := takeRun_of_keyed keyed other
    rw [← whole, runs, taken, ← later]

namespace RunReader

theorem take_eq (n : Nat) (r : RunReader α) : (r.take key n).1 = (runs key r.rest).take n := by
  induction n generalizing r with
  | zero => simp [take]
  | succ n ih =>
    obtain ⟨rest, peeked, pulled⟩ := r
    cases rest with
    | nil => simp [take, next, runs]
    | cons a as =>
      rw [runs, List.take_succ_cons]
      simp [take, next, ih]

end RunReader

theorem length_runs_le (key : α → κ) (as : List α) : (runs key as).length ≤ as.length := by
  fun_induction runs key as with
  | case1 => simp
  | case2 a as ih =>
    have shorter := takeRun_length key (key a) as
    simp only [List.length_cons]
    omega

/-- A reader of `as` that is asked until it has no more groups hands out the only cut into batches,
whether or not it has looked at the first element already. Elements of equal key with one of another
key between them are in different groups. -/
theorem batches_iff (key : α → κ) (as : List α) (groups : List (κ × List α)) :
    (Batches key as groups ↔ runs key as = groups) ∧
    (Batches key as groups ↔
      ∀ reader : RunReader α, reader.rest = as → ∀ more,
        (reader.take key (as.length + more)).1 = groups) ∧
    (Batches key as groups → ∀ u a v b c w, as = u ++ a :: (v ++ c :: w) → b ∈ v → key b ≠ key a →
      EndsBetween groups (u ++ [a]) (c :: w)) := by
  have unique : Batches key as groups ↔ runs key as = groups := by
    constructor
    · intro batches
      exact batches.eq_runs.symm
    · rintro rfl
      exact batches_runs key as
  have handed (reader : RunReader α) (unread : reader.rest = as) (more : Nat) :
      (reader.take key (as.length + more)).1 = runs key as := by
    have few : (runs key as).length ≤ as.length + more :=
      Nat.le_trans (length_runs_le key as) (Nat.le_add_right _ more)
    rw [RunReader.take_eq, unread]
    exact List.take_of_length_le few
  refine ⟨unique, ?_, ?_⟩
  · constructor
    · intro batches reader unread more
      rw [handed reader unread more, unique.mp batches]
    · intro asked
      rw [unique, ← handed (.ofList as) rfl 0, asked (.ofList as) rfl 0]
  · intro batches u a v b c w split between other
    exact batches.ends_between split between other

example : ((RunReader.ofList [11, 12, 21, 13]).take (· / 10) 4).1 =
    [(1, [11, 12]), (2, [21]), (1, [13])] := by decide

end DeployPlan
