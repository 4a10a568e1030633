import Mathlib.Data.List.DropRight
import DeployPlan.Text.Pieces

/-!
Trimming. What trimming leaves has no blank at either end, and a text without blanks at its ends is left
as it is.
-/

namespace DeployPlan

namespace Text

theorem trimChars_eq (cs : List Char) :
    trimChars cs = List.rdropWhile isBlank (cs.dropWhile isBlank) := rfl

theorem trimChars_eq_nil_iff {cs : List Char} : trimChars cs = [] ↔ ∀ c ∈ cs, isBlank c = true := by
  rw [trimChars_eq, List.rdropWhile_eq_nil_iff]
  constructor
  · intro rest
    cases kept : cs.dropWhile isBlank with
    | nil => exact List.dropWhile_eq_nil_iff.mp kept
    | cons c more =>
      -- what is kept at the front is not blank
      have first := List.head?_dropWhile_not isBlank cs
      have blank := rest c (kept ▸ List.mem_cons_self)
      rw [kept] at first
      exact absurd blank (by simpa using first)
  · intro all c member
    exact all c ((List.dropWhile_sublist _).subset member)

theorem mem_dropWhile_iff {p : Char → Bool} {c : Char} (kept : p c = false) {cs : List Char} :
    c ∈ cs.dropWhile p ↔ c ∈ cs := by
  constructor
  · intro member
    exact (List.dropWhile_sublist p).subset member
  · intro member
    rw [← List.takeWhile_append_dropWhile (p := p) (l := cs), List.mem_append] at member
    rcases member with dropped | member
    · have holds := List.mem_takeWhile_imp dropped
      rw [kept] at holds
      cases holds
    · exact member

theorem mem_trimChars_iff {c : Char} (visible : isBlank c = false) {cs : List Char} :
    c ∈ trimChars cs ↔ c ∈ cs := by
  rw [trimChars_eq, List.rdropWhile, List.mem_reverse, mem_dropWhile_iff visible, List.mem_reverse,
    mem_dropWhile_iff visible]

/-- No blank stands at either end. -/
def Trimmed (cs : List Char) : Prop :=
  ∀ c, cs.head? = some c ∨ cs.getLast? = some c → isBlank c = false

theorem trimmed_trimChars (cs : List Char) : Trimmed (trimChars cs) := by
  rw [trimChars_eq]
  rintro c (first | last)
  · obtain ⟨rest, whole⟩ := List.rdropWhile_prefix isBlank (cs.dropWhile isBlank)
    have kept := List.head?_dropWhile_not isBlank cs
    rw [← whole, List.head?_append, first] at kept
    simpa using kept
  · have nonempty : List.rdropWhile isBlank (cs.dropWhile isBlank) ≠ [] := by
      rintro none
      rw [none] at last
      cases last
    rw [List.getLast?_eq_some_getLast nonempty] at last
    cases last
    simpa using List.rdropWhile_last_not isBlank _ nonempty

theorem trimChars_eq_self_iff {cs : List Char} : trimChars cs = cs ↔ Trimmed cs := by
  constructor
  · intro same
    rw [← same]
    exact trimmed_trimChars cs
  · intro trimmed
    have start : cs.dropWhile isBlank = cs := by
      cases cs with
      | nil => rfl
      | cons c cs => exact List.dropWhile_cons_of_neg (by simp [trimmed c (Or.inl rfl)])
    rw [trimChars_eq, start, List.rdropWhile_eq_self_iff]
    intro nonempty
    simp [trimmed _ (Or.inr (List.getLast?_eq_some_getLast nonempty))]

theorem trimChars_append_blank (cs : List Char) {after : List Char} (blank : ∀ c ∈ after, isBlank c = true) :
    trimChars (cs ++ after) = trimChars cs := by
  have dropped : ∀ c ∈ after.reverse, isBlank c = true := fun c member =>
    blank c (List.mem_reverse.mp member)
  rw [trimChars_eq, trimChars_eq, List.dropWhile_append]
  split
  · rename_i none
    rw [List.isEmpty_iff.mp none, List.dropWhile_eq_nil_iff.mpr blank]
  · rw [List.rdropWhile, List.reverse_append, List.dropWhile_append_of_pos dropped, ← List.rdropWhile]

theorem trimChars_blank_append {before : List Char} (blank : ∀ c ∈ before, isBlank c = true)
    (cs : List Char) : trimChars (before ++ cs) = trimChars cs := by
  rw [trimChars_eq, List.dropWhile_append_of_pos blank, ← trimChars_eq]

theorem trimChars_blank_cons {c : Char} (blank : isBlank c = true) (cs : List Char) :
    trimChars (c :: cs) = trimChars cs := by
  have front : ∀ d ∈ [c], isBlank d = true := by simpa using blank
  exact trimChars_blank_append front cs

end Text

end DeployPlan
