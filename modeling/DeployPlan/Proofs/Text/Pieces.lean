import Mathlib.Data.List.Basic
import DeployPlan.Text.Pieces

/-!
Cutting. The pieces of a text, and what stands before and behind its first separator.
-/

namespace DeployPlan

namespace Text

variable {isSep : Char → Bool}

theorem piecesBy_of_forall {cs : List Char} (whole : ∀ c ∈ cs, isSep c = false) :
    piecesBy isSep cs = [cs] := by
  induction cs with
  | nil => rfl
  | cons c cs ih =>
    obtain ⟨plain, later⟩ := List.forall_mem_cons.mp whole
    rw [piecesBy, plain, ih later]
    rfl

theorem piecesBy_append {sep : Char} (separates : isSep sep = true) (before after : List Char) :
    piecesBy isSep (before ++ sep :: after) = piecesBy isSep before ++ piecesBy isSep after := by
  induction before with
  | nil =>
    simp only [List.nil_append, piecesBy, if_pos separates, List.singleton_append]
  | cons c before ih =>
    rw [List.cons_append, piecesBy, piecesBy]
    by_cases cut : isSep c = true
    · rw [if_pos cut, if_pos cut, ih, List.cons_append]
    · rw [if_neg cut, if_neg cut, ih]
      cases first : piecesBy isSep before with
      | nil => exact absurd first (piecesBy_ne_nil isSep before)
      | cons p ps => rfl

/-! Pieces joined by the separator -/

section

variable {sep : Char}

theorem joinChars_cons {p : List Char} {ps : List (List Char)} (later : ps ≠ []) (sep : List Char) :
    joinChars sep (p :: ps) = p ++ sep ++ joinChars sep ps := by
  cases ps with
  | nil => exact absurd rfl later
  | cons q ps => rfl

theorem joinChars_piecesBy (sep : Char) (cs : List Char) :
    joinChars [sep] (piecesBy (· == sep) cs) = cs := by
  induction cs with
  | nil => rfl
  | cons c cs ih =>
    rw [piecesBy]
    by_cases cut : (c == sep) = true
    · rw [if_pos cut, joinChars_cons (piecesBy_ne_nil _ cs), ih, beq_iff_eq.mp cut]
      rfl
    · rw [if_neg cut]
      cases first : piecesBy (· == sep) cs with
      | nil => exact absurd first (piecesBy_ne_nil _ cs)
      | cons p ps =>
        rw [first] at ih
        -- the character stands in front of the first piece, and so of all that is joined
        cases ps with
        | nil => exact congrArg (c :: ·) ih
        | cons q ps => exact congrArg (c :: ·) ih

theorem not_mem_of_mem_piecesBy {cs p : List Char} (piece : p ∈ piecesBy (· == sep) cs) : sep ∉ p := by
  induction cs generalizing p with
  | nil =>
    obtain rfl := List.mem_singleton.mp piece
    exact List.not_mem_nil
  | cons c cs ih =>
    rw [piecesBy] at piece
    split at piece
    · rcases List.mem_cons.mp piece with rfl | later
      · exact List.not_mem_nil
      · exact ih later
    · rename_i other
      cases first : piecesBy (· == sep) cs with
      | nil => exact absurd first (piecesBy_ne_nil _ cs)
      | cons q ps =>
        rw [first] at piece ih
        rcases List.mem_cons.mp piece with rfl | later
        · rw [List.mem_cons, not_or]
          exact ⟨fun same => other (by simp [same]), ih List.mem_cons_self⟩
        · exact ih (List.mem_cons_of_mem q later)

theorem piecesBy_joinChars {ps : List (List Char)} (nonempty : ps ≠ []) (solid : ∀ p ∈ ps, sep ∉ p) :
    piecesBy (· == sep) (joinChars [sep] ps) = ps := by
  have single : ∀ p ∈ ps, piecesBy (· == sep) p = [p] := by
    intro p piece
    refine piecesBy_of_forall fun c inside => ?_
    rw [beq_eq_false_iff_ne]
    rintro rfl
    exact solid p piece inside
  clear solid
  induction ps with
  | nil => exact absurd rfl nonempty
  | cons p ps ih =>
    obtain ⟨first, later⟩ := List.forall_mem_cons.mp single
    by_cases last : ps = []
    · rw [last]
      exact first
    · have cut : piecesBy (· == sep) (p ++ sep :: joinChars [sep] ps) =
          piecesBy (· == sep) p ++ piecesBy (· == sep) (joinChars [sep] ps) := by
        apply piecesBy_append
        simp
      rw [joinChars_cons last, List.append_assoc, List.singleton_append, cut, first, ih last later]
      rfl

end

theorem cutAt?_append {sep : Char} {before : List Char} (none_before : ∀ c ∈ before, c ≠ sep)
    (after : List Char) : cutAt? sep (before ++ sep :: after) = some (before, after) := by
  induction before with
  | nil =>
    rw [List.nil_append, cutAt?, if_pos rfl]
  | cons c before ih =>
    obtain ⟨other, later⟩ := List.forall_mem_cons.mp none_before
    rw [List.cons_append, cutAt?, if_neg other, ih later]
    rfl

theorem cutAt?_of_not_mem {sep : Char} {cs : List Char} (absent : sep ∉ cs) :
    cutAt? sep cs = none := by
  induction cs with
  | nil => rfl
  | cons c cs ih =>
    rw [List.mem_cons, not_or] at absent
    rw [cutAt?, if_neg (Ne.symm absent.1), ih absent.2]
    rfl

theorem cutAt?_eq_some_iff {sep : Char} {cs before after : List Char} :
    cutAt? sep cs = some (before, after) ↔ cs = before ++ sep :: after ∧ sep ∉ before := by
  constructor
  · intro cut
    by_cases present : sep ∈ cs
    · obtain ⟨front, rest, rfl, first⟩ := List.eq_append_cons_of_mem present
      rw [cutAt?_append (List.forall_mem_ne'.mpr first)] at cut
      cases cut
      exact ⟨rfl, first⟩
    · rw [cutAt?_of_not_mem present] at cut
      cases cut
  · rintro ⟨rfl, first⟩
    exact cutAt?_append (List.forall_mem_ne'.mpr first) after

end Text

end DeployPlan
