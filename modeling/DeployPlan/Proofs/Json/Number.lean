import Mathlib.Data.List.Basic
import DeployPlan.Json.Node

/-!
Spelled numbers. Reading takes a number back as it was spelled, when nothing behind it could belong
to it.
-/

namespace DeployPlan.Json

def Digits (cs : List Char) : Prop :=
  ∀ c ∈ cs, Text.isAsciiDigit c = true

structure NumberText.Legal (n : NumberText) : Prop where
  some_whole : n.whole ≠ []
  whole : Digits n.whole
  lone_zero : ¬(n.whole.head? = some '0' ∧ n.whole.length > 1)
  fraction : Digits n.fraction
  exponent : ∀ down ds, n.exponent = some (down, ds) → ds ≠ [] ∧ Digits ds

/-- The text does not go on with a character of a number. -/
def Ends (rest : List Char) : Prop :=
  ∀ c ∈ rest.head?, Text.isAsciiDigit c = false ∧ c ≠ '.' ∧ c ≠ 'e' ∧ c ≠ 'E'

theorem ends_nil : Ends [] := by
  rintro c ⟨⟩

theorem takeDigits_append {ds rest : List Char} (digits : Digits ds)
    (ends : ∀ c ∈ rest.head?, Text.isAsciiDigit c = false) :
    takeDigits (ds ++ rest) = (ds, rest) := by
  rw [takeDigits, List.takeWhile_append_of_pos digits, List.dropWhile_append_of_pos digits]
  cases rest with
  | nil => simp
  | cons c rest => simp [ends c rfl]

namespace NumberText

def pointed (n : NumberText) : List Char :=
  if n.fraction.isEmpty then [] else '.' :: n.fraction

def scaled (n : NumberText) : List Char :=
  match n.exponent with
  | none => []
  | some (negative, ds) => 'e' :: (if negative then '-' :: ds else ds)

theorem chars_eq (n : NumberText) :
    n.chars = (if n.negative then ['-'] else []) ++ (n.whole ++ (n.pointed ++ n.scaled)) := by
  rw [chars, List.append_assoc, List.append_assoc]
  rfl

end NumberText

/-- The texts of an exponent: the letter may be of either case, and a sign may stand where none is
needed. -/
inductive SpellsExponent : Option (Bool × List Char) → List Char → Prop
  | none : SpellsExponent none []
  | negative {letter : Char} {ds : List Char} :
      letter = 'e' ∨ letter = 'E' → SpellsExponent (some (true, ds)) (letter :: '-' :: ds)
  | positive {letter : Char} {sign ds : List Char} :
      letter = 'e' ∨ letter = 'E' → sign = [] ∨ sign = ['+'] →
        SpellsExponent (some (false, ds)) (letter :: (sign ++ ds))

inductive SpellsNumber : NumberText → List Char → Prop
  | mk {n : NumberText} {scale : List Char} :
      n.Legal → SpellsExponent n.exponent scale →
        SpellsNumber n ((if n.negative then ['-'] else []) ++ (n.whole ++ (n.pointed ++ scale)))

variable {n : NumberText} {scale rest : List Char}

theorem spellsExponent_scaled (n : NumberText) : SpellsExponent n.exponent n.scaled := by
  unfold NumberText.scaled
  cases n.exponent with
  | none => exact .none
  | some scale =>
    obtain ⟨down, ds⟩ := scale
    cases down with
    | true => exact .negative (.inl rfl)
    | false => exact .positive (.inl rfl) (.inl rfl)

theorem spellsNumber_chars (legal : n.Legal) : SpellsNumber n n.chars := by
  rw [NumberText.chars_eq]
  exact .mk legal (spellsExponent_scaled n)

theorem SpellsExponent.follows {exponent : Option (Bool × List Char)}
    (spells : SpellsExponent exponent scale) (ends : Ends rest) :
    ∀ c ∈ (scale ++ rest).head?, Text.isAsciiDigit c = false ∧ c ≠ '.' := by
  cases spells with
  | none => exact fun c first => ⟨(ends c first).1, (ends c first).2.1⟩
  | negative letter =>
    rintro c ⟨⟩
    rcases letter with rfl | rfl <;> decide
  | positive letter _ =>
    rintro c ⟨⟩
    rcases letter with rfl | rfl <;> decide

theorem readExponent_spelled (legal : n.Legal) (spells : SpellsExponent n.exponent scale)
    (ends : Ends rest) : readExponent (scale ++ rest) = .ok (n.exponent, rest) := by
  have digits := legal.exponent
  generalize n.exponent = exponent at spells digits
  cases spells with
  | none =>
    cases rest with
    | nil => rfl
    | cons c rest =>
      obtain ⟨_, _, lower, upper⟩ := ends c rfl
      simp [readExponent, lower, upper]
  | @negative _ ds letter =>
    obtain ⟨some_digit, digits⟩ := digits true ds rfl
    have taken := takeDigits_append digits fun c first => (ends c first).1
    have present : ds.isEmpty = false := by simpa using some_digit
    simp [readExponent, letter, taken, present]
  | @positive _ _ ds letter sign =>
    obtain ⟨some_digit, digits⟩ := digits false ds rfl
    have taken := takeDigits_append digits fun c first => (ends c first).1
    have present : ds.isEmpty = false := by simpa using some_digit
    rcases sign with rfl | rfl
    · obtain ⟨d, ds, rfl⟩ := List.exists_cons_of_ne_nil some_digit
      have unsigned : d ≠ '-' ∧ d ≠ '+' := by
        have digit := digits d List.mem_cons_self
        constructor <;> (rintro rfl; revert digit; decide)
      simp only [List.cons_append] at taken
      simp [readExponent, letter, taken, unsigned]
    · simp [readExponent, letter, taken, present]

theorem readFraction_pointed (legal : n.Legal) {cs : List Char}
    (follows : ∀ c ∈ cs.head?, Text.isAsciiDigit c = false ∧ c ≠ '.') :
    readFraction (n.pointed ++ cs) = .ok (n.fraction, cs) := by
  rw [NumberText.pointed]
  cases given : n.fraction with
  | nil =>
    simp only [List.isEmpty_nil, if_true, List.nil_append]
    cases cs with
    | nil => rfl
    | cons c cs =>
      have noPoint := (follows c rfl).2
      rw [readFraction]
      simp [noPoint]
  | cons d ds =>
    have taken := takeDigits_append (given ▸ legal.fraction) fun c first => (follows c first).1
    simp only [List.cons_append] at taken
    simp [readFraction, taken]

theorem readNumber_spelled (legal : n.Legal) (spells : SpellsExponent n.exponent scale)
    (ends : Ends rest) :
    readNumber n.negative (n.whole ++ (n.pointed ++ scale) ++ rest) = .ok (n, rest) := by
  have behind := spells.follows ends
  have follows : ∀ c ∈ (n.pointed ++ (scale ++ rest)).head?, Text.isAsciiDigit c = false := by
    rw [NumberText.pointed]
    cases n.fraction with
    | cons d ds =>
      rintro c ⟨⟩
      decide
    | nil => exact fun c first => (behind c first).1
  have present : n.whole.isEmpty = false := by simpa using legal.some_whole
  rw [List.append_assoc, List.append_assoc, readNumber, takeDigits_append legal.whole follows]
  simp only [present, Bool.false_eq_true, if_false, if_neg legal.lone_zero]
  rw [readFraction_pointed legal behind]
  simp only [bind, Except.bind, readExponent_spelled legal spells ends]
  rfl

theorem isAsciiDigit_digitChar :
    ∀ d, d < 10 → Text.isAsciiDigit (Number.digitChar d) = true := by decide

theorem zero_of_digitChar : ∀ d, d < 10 → Number.digitChar d = '0' → d = 0 := by decide

theorem digits_digits (n : Nat) : Digits (Number.digits n) := by
  rw [Number.digits]
  split
  · rename_i small
    exact List.forall_mem_singleton.mpr (isAsciiDigit_digitChar n small)
  · exact List.forall_mem_append.mpr ⟨digits_digits (n / 10),
      List.forall_mem_singleton.mpr (isAsciiDigit_digitChar (n % 10) (Nat.mod_lt n (by decide)))⟩
termination_by n
decreasing_by omega

theorem digits_ne_nil (n : Nat) : Number.digits n ≠ [] := by
  rw [Number.digits]
  split <;> simp

theorem zero_of_head_digits (n : Nat) (zero : (Number.digits n).head? = some '0') : n = 0 := by
  rw [Number.digits] at zero
  split at zero
  · rename_i small
    exact zero_of_digitChar n small (Option.some.inj zero)
  · rw [List.head?_append_of_ne_nil _ (digits_ne_nil (n / 10))] at zero
    have quotient := zero_of_head_digits (n / 10) zero
    omega
termination_by n
decreasing_by omega

theorem legal_digits (n : Nat) : NumberText.Legal { whole := Number.digits n } where
  some_whole := digits_ne_nil n
  whole := digits_digits n
  lone_zero := by
    rintro ⟨zero, long⟩
    obtain rfl := zero_of_head_digits n zero
    simp [Number.digits] at long
  fraction := by rintro c ⟨⟩
  exponent := by rintro down ds ⟨⟩

end DeployPlan.Json
