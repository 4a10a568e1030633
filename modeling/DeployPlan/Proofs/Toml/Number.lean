import DeployPlan.Proofs.Json.Number
import DeployPlan.Toml.Scalar

/-!
Written numbers. The digits of a number up to the end of the line are read as that number, and as
nothing else: they are no date, no time of day and no floating point number.
-/

namespace DeployPlan.Toml

open Json (Digits)

variable {ds rest : List Char}

/- Dates and times need something between their digits. -/

theorem newline_mem_take (rest : List Char) {count : Nat} (more : ds.length < count) :
    '\n' ∈ (ds ++ '\n' :: rest).take count := by
  obtain ⟨k, further⟩ := Nat.exists_eq_add_of_lt more
  have split : count - ds.length = k + 1 := by omega
  rw [List.take_append, split, List.take_succ_cons]
  exact List.mem_append_right _ List.mem_cons_self

theorem fixedNumber?_digits (digits : Digits ds) {count least most n : Nat} {after : List Char}
    (read : fixedNumber? count least most (ds ++ '\n' :: rest) = some (n, after)) :
    ∃ es, Digits es ∧ after = es ++ '\n' :: rest := by
  rw [fixedNumber?] at read
  split at read
  · rename_i fits
    obtain ⟨-, all, -⟩ := fits
    cases read
    have enough : count ≤ ds.length := by
      by_contra fewer
      have line := newline_mem_take rest (Nat.lt_of_not_le fewer)
      exact absurd (List.all_eq_true.mp all '\n' line) (by decide)
    refine ⟨ds.drop count, fun d member => digits d (List.mem_of_mem_drop member), ?_⟩
    rw [List.drop_append_of_le_length enough]
  · cases read

theorem expect?_digits (digits : Digits ds) {c : Char} (other : Text.isAsciiDigit c = false)
    (line : c ≠ '\n') : expect? c (ds ++ '\n' :: rest) = none := by
  cases ds with
  | nil => simp [expect?, line.symm]
  | cons d ds =>
    have digit := digits d List.mem_cons_self
    have different : d ≠ c := by
      rintro rfl
      rw [digit] at other
      cases other
    simp [expect?, different]

theorem date?_digits (digits : Digits ds) : date? (ds ++ '\n' :: rest) = none := by
  rw [date?]
  cases year : fixedNumber? 4 0 9999 (ds ++ '\n' :: rest) with
  | none => rfl
  | some read =>
    obtain ⟨n, after⟩ := read
    obtain ⟨es, later, rfl⟩ := fixedNumber?_digits digits year
    have dash : expect? '-' (es ++ '\n' :: rest) = none :=
      expect?_digits later (by decide) (by decide)
    simp [dash]

theorem time?_digits (digits : Digits ds) : time? (ds ++ '\n' :: rest) = none := by
  rw [time?]
  cases hour : fixedNumber? 2 0 23 (ds ++ '\n' :: rest) with
  | none => rfl
  | some read =>
    obtain ⟨n, after⟩ := read
    obtain ⟨es, later, rfl⟩ := fixedNumber?_digits digits hour
    have colon : expect? ':' (es ++ '\n' :: rest) = none :=
      expect?_digits later (by decide) (by decide)
    simp [colon]

theorem moment?_digits (digits : Digits ds) : moment? (ds ++ '\n' :: rest) = none := by
  rw [moment?, date?_digits digits]
  exact time?_digits digits

/- Whole numbers. -/

theorem takeDigits_digits (digits : Digits ds) (behindDigit : Bool) :
    takeDigits Text.isAsciiDigit behindDigit (ds ++ '\n' :: rest) = (ds, '\n' :: rest) := by
  induction ds generalizing behindDigit with
  | nil =>
    have line : Text.isAsciiDigit '\n' = false := by decide
    simp [takeDigits, line]
  | cons d ds ih =>
    obtain ⟨first, later⟩ := List.forall_mem_cons.mp digits
    rw [List.cons_append, takeDigits, if_pos first, ih later]

theorem takeSign_digits (digits : Digits ds) :
    takeSign (ds ++ '\n' :: rest) = (false, ds ++ '\n' :: rest) := by
  cases ds with
  | nil => rfl
  | cons d ds =>
    have digit := digits d List.mem_cons_self
    have minus : d ≠ '-' := by
      rintro rfl
      exact absurd digit (by decide)
    have plus : d ≠ '+' := by
      rintro rfl
      exact absurd digit (by decide)
    simp [takeSign, minus, plus]

theorem digits_zero : Number.digits 0 = ['0'] := by
  rw [Number.digits]
  rfl

theorem wholeDigits?_digits (n : Nat) :
    wholeDigits? (Number.digits n ++ '\n' :: rest) = some (Number.digits n, '\n' :: rest) := by
  have digits := Json.digits_digits n
  obtain ⟨d, ds, written⟩ := List.exists_cons_of_ne_nil (Json.digits_ne_nil n)
  rw [written] at digits ⊢
  rw [List.cons_append, wholeDigits?]
  by_cases zero : d = '0'
  · have none : n = 0 := Json.zero_of_head_digits n (by rw [written, zero]; rfl)
    rw [none, digits_zero] at written
    cases written
    rfl
  · rw [if_neg zero, if_pos (digits d List.mem_cons_self), ← List.cons_append,
      takeDigits_digits digits]

theorem expectWord?_digits (digits : Digits ds) {w : Char} (ws : List Char)
    (letter : Text.isAsciiDigit w = false) (line : w ≠ '\n') :
    expectWord? (w :: ws) (ds ++ '\n' :: rest) = none := by
  rw [expectWord?, expect?_digits digits letter line]
  rfl

theorem float?_digits (n : Nat) : float? (Number.digits n ++ '\n' :: rest) = none := by
  have digits := Json.digits_digits n
  have infinite : expectWord? ['i', 'n', 'f'] (Number.digits n ++ '\n' :: rest) = none :=
    expectWord?_digits digits _ (by decide) (by decide)
  have undefined : expectWord? ['n', 'a', 'n'] (Number.digits n ++ '\n' :: rest) = none :=
    expectWord?_digits digits _ (by decide) (by decide)
  rw [float?, takeSign_digits digits]
  simp only [infinite, undefined, wholeDigits?_digits]
  rfl

theorem decimal?_digits {n : Nat} (small : n ≤ integerLimit) :
    decimal? (Number.digits n ++ '\n' :: rest) = some (Int.ofNat n, '\n' :: rest) := by
  rw [decimal?, takeSign_digits (Json.digits_digits n)]
  simp [wholeDigits?_digits, Number.ofDigits_digits, small]

theorem integer?_digits {n : Nat} (small : n ≤ integerLimit) :
    integer? (Number.digits n ++ '\n' :: rest) = some (Int.ofNat n, '\n' :: rest) := by
  rw [← decimal?_digits small]
  by_cases zero : n = 0
  · rw [zero, digits_zero]
    rfl
  · rw [integer?]
    intro c r start
    have head : (Number.digits n).head? = some '0' := by
      obtain ⟨d, ds, written⟩ := List.exists_cons_of_ne_nil (Json.digits_ne_nil n)
      rw [written] at start ⊢
      exact congrArg some (List.cons.inj start).1
    exact zero (Json.zero_of_head_digits n head)

theorem scalar?_digits {n : Nat} (small : n ≤ integerLimit) :
    scalar? (Number.digits n ++ '\n' :: rest) = some (.integer n, '\n' :: rest) := by
  rw [scalar?, moment?_digits (Json.digits_digits n), float?_digits, integer?_digits small]
  rfl

end DeployPlan.Toml
