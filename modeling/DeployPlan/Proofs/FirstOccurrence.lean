import Mathlib.Data.List.Basic

/-!
First occurrences. Dropping later repetitions keeps which of two elements is met first. In a list
that is put together from parts, this is settled by the first part that has the later element.
-/

namespace DeployPlan

variable {α β : Type} [DecidableEq β]

theorem mem_of_idxOf_lt {x y : β} {l : List β} (h : l.idxOf x < l.idxOf y) : x ∈ l :=
  List.idxOf_lt_length_iff.mp (Nat.lt_of_lt_of_le h List.idxOf_le_length)

theorem idxOf_append_lt_iff (l m : List β) (x y : β) :
    (l ++ m).idxOf x < (l ++ m).idxOf y ↔
      if y ∈ l then l.idxOf x < l.idxOf y else x ∈ l ∨ m.idxOf x < m.idxOf y := by
  have hx := List.idxOf_lt_length_iff (a := x) (l := l)
  have hy := List.idxOf_lt_length_iff (a := y) (l := l)
  rw [List.idxOf_append, List.idxOf_append]
  by_cases ly : y ∈ l <;> by_cases lx : x ∈ l <;> simp only [lx, ly, if_true, if_false, iff_true,
    true_or, false_or, iff_false] at hx hy ⊢ <;> omega

theorem idxOf_filter_lt_iff (p : β → Bool) {x y : β} (hx : p x = true) (hy : p y = true)
    (l : List β) : (l.filter p).idxOf x < (l.filter p).idxOf y ↔ l.idxOf x < l.idxOf y := by
  induction l with
  | nil => rfl
  | cons a l ih =>
    by_cases ha : p a = true
    · simp only [List.filter_cons_of_pos ha, List.idxOf_cons]
      cases a == x <;> cases a == y <;> simp [ih]
    · have ax : (a == x) = false := by
        apply beq_false_of_ne
        intro e
        exact ha (e ▸ hx)
      have ay : (a == y) = false := by
        apply beq_false_of_ne
        intro e
        exact ha (e ▸ hy)
      simp [List.filter_cons_of_neg ha, List.idxOf_cons, ax, ay, ih]

theorem idxOf_eraseDups_lt_iff (x y : β) (l : List β) :
    l.eraseDups.idxOf x < l.eraseDups.idxOf y ↔ l.idxOf x < l.idxOf y := by
  match l with
  | [] => rfl
  | a :: l =>
    have shorter := List.length_filter_le (fun b => !b == a) l
    have ih := idxOf_eraseDups_lt_iff x y (l.filter fun b => !b == a)
    rw [List.eraseDups_cons, List.idxOf_cons, List.idxOf_cons, List.idxOf_cons, List.idxOf_cons]
    -- Either `a` is one of the two and comes first, or dropping it moves neither past the other.
    by_cases ax : a = x
    · subst ax
      by_cases ay : a = y
      · simp [ay]
      · simp [beq_false_of_ne ay]
    · by_cases ay : a = y
      · simp [ay]
      · have kept := idxOf_filter_lt_iff (fun b => !b == a) (x := x) (y := y)
          (by simpa using Ne.symm ax) (by simpa using Ne.symm ay) l
        rw [kept] at ih
        simpa [beq_false_of_ne ax, beq_false_of_ne ay] using ih
termination_by l.length
decreasing_by
  simp only [List.length_cons]
  omega

theorem forall_split_cons {p : List α → α → Prop} {a : α} {parts : List α} :
    (∀ before b after, a :: parts = before ++ b :: after → p before b) ↔
      p [] a ∧ ∀ before b after, parts = before ++ b :: after → p (a :: before) b := by
  constructor
  · intro every
    refine ⟨every [] a parts rfl, ?_⟩
    rintro before b after rfl
    exact every (a :: before) b after rfl
  · rintro ⟨first, later⟩ before b after split
    cases before with
    | nil =>
      obtain ⟨rfl, rfl⟩ := List.cons.inj split
      exact first
    | cons c before =>
      obtain ⟨rfl, rfl⟩ := List.cons.inj split
      exact later before b after rfl

theorem idxOf_flatMap_lt_iff (f : α → List β) (x y : β) (parts : List α)
    (hy : y ∈ parts.flatMap f) :
    (parts.flatMap f).idxOf x < (parts.flatMap f).idxOf y ↔
      ∀ before a after, parts = before ++ a :: after → y ∈ f a →
        (∃ b ∈ before, x ∈ f b) ∨ (f a).idxOf x < (f a).idxOf y := by
  induction parts with
  | nil => simp at hy
  | cons a parts ih =>
    rw [List.flatMap_cons, idxOf_append_lt_iff]
    refine Iff.trans ?_ forall_split_cons.symm
    by_cases ay : y ∈ f a
    · -- A later part that has `y` as well finds `x` in this one.
      rw [if_pos ay]
      constructor
      · intro lt
        have ax := mem_of_idxOf_lt lt
        exact ⟨fun _ => .inr lt, fun _ _ _ _ _ => .inl ⟨a, List.mem_cons_self, ax⟩⟩
      · rintro ⟨first, -⟩
        exact (first ay).resolve_left (by simp)
    · rw [if_neg ay]
      have rest : y ∈ parts.flatMap f := by
        rw [List.flatMap_cons] at hy
        exact (List.mem_append.mp hy).resolve_left ay
      rw [ih rest]
      by_cases ax : x ∈ f a <;> simp [ax, ay]

theorem eraseDups_filter (p : β → Bool) (l : List β) :
    (l.filter p).eraseDups = l.eraseDups.filter p := by
  match l with
  | [] => rfl
  | a :: l =>
    have shorter := List.length_filter_le (fun b => !b == a) l
    have ih := eraseDups_filter p (l.filter fun b => !b == a)
    have swap : ∀ q : β → Bool, (l.filter p).filter q = (l.filter q).filter p := by
      intro q
      simp only [List.filter_filter, Bool.and_comm]
    by_cases ha : p a = true
    · rw [List.filter_cons_of_pos ha, List.eraseDups_cons, List.eraseDups_cons,
        List.filter_cons_of_pos ha, swap, ih]
    · have same : (l.filter p).filter (fun b => !b == a) = l.filter p := by
        rw [List.filter_eq_self]
        intro b hb
        simp only [Bool.not_eq_true', beq_eq_false_iff_ne]
        intro e
        exact ha (e ▸ (List.mem_filter.mp hb).2)
      rw [List.filter_cons_of_neg ha, List.eraseDups_cons, List.filter_cons_of_neg ha, ← ih,
        ← swap, same]
termination_by l.length
decreasing_by
  simp only [List.length_cons]
  omega

theorem eraseDups_eq_nil_iff {l : List β} : l.eraseDups = [] ↔ l = [] := by
  cases l with
  | nil => simp
  | cons a l => simp [List.eraseDups_cons]

theorem nodup_eraseDups (l : List β) : l.eraseDups.Nodup := by
  match l with
  | [] => exact List.nodup_nil
  | a :: l =>
    have shorter := List.length_filter_le (fun b => !b == a) l
    rw [List.eraseDups_cons]
    refine List.nodup_cons.mpr ⟨?_, nodup_eraseDups _⟩
    simp
termination_by l.length
decreasing_by
  simp only [List.length_cons]
  omega

theorem eraseDups_of_nodup {l : List β} (nodup : l.Nodup) : l.eraseDups = l := by
  induction l with
  | nil => rfl
  | cons a l ih =>
    obtain ⟨fresh, rest⟩ := List.nodup_cons.mp nodup
    have same : l.filter (fun b => !b == a) = l := by
      rw [List.filter_eq_self]
      intro b hb
      simp only [Bool.not_eq_true', beq_eq_false_iff_ne]
      intro e
      exact fresh (e ▸ hb)
    rw [List.eraseDups_cons, same, ih rest]

theorem eraseDups_append_congr {l l' m m' : List β} (first : l.eraseDups = l'.eraseDups)
    (second : m.eraseDups = m'.eraseDups) : (l ++ m).eraseDups = (l' ++ m').eraseDups := by
  have same : ∀ b, b ∈ l ↔ b ∈ l' := fun b => by
    rw [← List.mem_eraseDups, first, List.mem_eraseDups]
  have without : ∀ k : List β, k.removeAll l = k.removeAll l' := fun k => by
    simp only [List.removeAll, List.elem_eq_mem, same]
  rw [List.eraseDups_append, List.eraseDups_append, first, without]
  congr 1
  simp only [List.removeAll, eraseDups_filter, second]

theorem eraseDups_flatMap_congr {f g : α → List β} {l : List α}
    (same : ∀ a ∈ l, (f a).eraseDups = (g a).eraseDups) :
    (l.flatMap f).eraseDups = (l.flatMap g).eraseDups := by
  induction l with
  | nil => rfl
  | cons a l ih =>
    obtain ⟨first, later⟩ := List.forall_mem_cons.mp same
    rw [List.flatMap_cons, List.flatMap_cons]
    exact eraseDups_append_congr first (ih later)

theorem eraseDups_replicate_succ (n : Nat) (b : β) : (List.replicate (n + 1) b).eraseDups = [b] := by
  simp [List.replicate_succ, List.eraseDups_cons]

theorem eraseDups_append_cons_of_mem {b : β} {l : List β} (member : b ∈ l) (m : List β) :
    (l ++ b :: m).eraseDups = (l ++ m).eraseDups := by
  have without : (b :: m).removeAll l = m.removeAll l := by
    rw [List.cons_removeAll, if_neg (by simpa using member)]
  rw [List.eraseDups_append, List.eraseDups_append, without]

end DeployPlan
