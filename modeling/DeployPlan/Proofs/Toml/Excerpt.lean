import Mathlib.Data.List.Basic
import DeployPlan.Proofs.Text.Utf8
import DeployPlan.Toml.Decoding

/-!
Excerpts. Around a place in a text its line is shown with the one before and the one after it, as far as
there are such. The line of the place is marked. Only a place behind the last line end has no line of its
own to be shown.
-/

namespace DeployPlan.Toml

open Text.Utf8 (encode decode? decode?_eq_some_iff)

variable {cs : List Char}

/-! The lines of a text -/

def AtLineStart (cs : List Char) : Prop :=
  cs = [] ∨ cs.getLast? = some '\n'

instance : Decidable (AtLineStart cs) :=
  inferInstanceAs (Decidable (cs = [] ∨ cs.getLast? = some '\n'))

theorem atLineStart_cons (c : Char) : AtLineStart (c :: cs) ↔ (cs = [] → c = '\n') ∧ AtLineStart cs := by
  cases cs with
  | nil => simp [AtLineStart]
  | cons d ds => simp [AtLineStart]

theorem atLineStart_append (before : List Char) {after : List Char} (more : after ≠ []) :
    AtLineStart (before ++ after) ↔ AtLineStart after := by
  simp [AtLineStart, List.getLast?_append_of_ne_nil _ more, more]

theorem count_of_atLineStart (nonempty : cs ≠ []) (ended : AtLineStart cs) : 0 < cs.count '\n' := by
  rw [List.count_pos_iff]
  exact List.mem_of_getLast? (ended.resolve_left nonempty)

theorem lines_eq_nil_iff : lines cs = [] ↔ cs = [] := by
  fun_cases lines cs <;> simp_all

theorem length_lines (cs : List Char) :
    (lines cs).length = cs.count '\n' + if AtLineStart cs then 0 else 1 := by
  fun_induction lines cs with
  | case1 => simp [AtLineStart]
  | case2 cs ih =>
    simp [atLineStart_cons, ih]
    omega
  | case3 cs ih =>
    simp [atLineStart_cons, ih]
    omega
  | case4 c cs plain other none =>
    obtain rfl := lines_eq_nil_iff.mp none
    simp [AtLineStart, show c ≠ '\n' from plain]
  | case5 c cs plain other l ls split ih =>
    have more : cs ≠ [] := fun none => by simp [lines_eq_nil_iff.mpr none] at split
    rw [split] at ih
    simp [atLineStart_cons, more, List.count_cons_of_ne (show c ≠ '\n' from plain)]
    exact ih

theorem line_le_length_iff (before after : List Char) :
    before.count '\n' + 1 ≤ (lines (before ++ after)).length ↔
      ¬(after = [] ∧ AtLineStart before) := by
  rw [length_lines, List.count_append]
  by_cases last : after = []
  · by_cases ended : AtLineStart before <;> simp [last, ended]
  · by_cases ended : AtLineStart (before ++ after)
    · have more := count_of_atLineStart last ((atLineStart_append before last).mp ended)
      simp only [last, ended, if_true, false_and, not_false_eq_true, iff_true]
      omega
    · simp only [last, ended, if_false, false_and, not_false_eq_true, iff_true]
      omega

/-! Shown lines -/

theorem around_numbers (cs : List Char) (n : Nat) :
    (around cs n).map Prod.fst =
      List.range' (n - 2 + 1) (min (n + 1) (lines cs).length - (n - 2)) := by
  simp [around, List.map_map, Function.comp_def]

theorem mem_around_iff {n i : Nat} {line : List Char} :
    (i, line) ∈ around cs n ↔ n - 2 < i ∧ i ≤ n + 1 ∧ (lines cs)[i - 1]? = some line := by
  simp only [around, List.mem_map, Prod.mk.injEq, Prod.exists, existsAndEq, and_true,
    List.mk_mem_zipIdx_iff_le_and_getElem?_sub, List.getElem?_drop, List.getElem?_take,
    Nat.add_one_le_iff]
  by_cases later : n - 2 < i
  · have place : n - 2 + (i - (n - 2 + 1)) = i - 1 := by omega
    have near : i - 1 < n + 1 ↔ i ≤ n + 1 := by omega
    simp [place, near, later]
  · simp [later]

/-- Shown with the marks in front. -/
def Marked (shown : List Char) : Prop :=
  ['>', '>', '>'] <+: shown

instance (shown : List Char) : Decidable (Marked shown) :=
  inferInstanceAs (Decidable (['>', '>', '>'] <+: shown))

theorem marked_shownLine {n : Nat} (entry : Nat × List Char) :
    Marked (shownLine n entry) ↔ entry.1 = n := by
  by_cases same : entry.1 = n <;> simp [Marked, shownLine, same, List.replicate]

theorem countP_marked_excerpt (cs : List Char) (n : Nat) :
    (excerpt cs n).countP (fun shown => Marked shown) = ((around cs n).map Prod.fst).count n := by
  rw [excerpt, List.countP_map, List.count, List.countP_map]
  refine List.countP_congr fun entry _ => ?_
  simp [marked_shownLine]

/-! Checked bounds -/

def slice? {α : Type} (l : List α) (first last : Nat) : Option (List α) :=
  if first ≤ last ∧ last ≤ l.length then some ((l.take last).drop first) else none

theorem slice?_eq_some {α : Type} {l : List α} {first last : Nat} (ordered : first ≤ last)
    (inside : last ≤ l.length) : slice? l first last = some ((l.take last).drop first) :=
  if_pos ⟨ordered, inside⟩

/-- The excerpt around a byte of a text, with checked bounds: the bytes before it have to be characters,
and the lines that are shown have to be there. -/
def excerptAt? (text : List Char) (byte : Nat) : Option (List (List Char)) := do
  let bytes := encode text
  let before ← slice? bytes 0 (min byte bytes.length) >>= decode?
  let n := before.count '\n' + 1
  let all := lines text
  let stop := min (n + 1) all.length
  let shown ← slice? all (min (n - 2) stop) stop
  return (shown.zipIdx (n - 2 + 1)).map fun (line, i) => shownLine n (i, line)

theorem decode?_bytes_before (before after : List Char) :
    (slice? (encode (before ++ after)) 0
      (min (encode before).length (encode (before ++ after)).length) >>= decode?) = some before := by
  have bytes : encode (before ++ after) = encode before ++ encode after := List.flatMap_append
  have inside : (encode before).length ≤ (encode (before ++ after)).length := by
    rw [bytes, List.length_append]
    omega
  rw [Nat.min_eq_left inside, slice?_eq_some (Nat.zero_le _) inside, List.drop_zero, bytes,
    List.take_left]
  exact decode?_eq_some_iff.mpr rfl

theorem slice?_lines (cs : List Char) (n : Nat) :
    slice? (lines cs) (min (n - 2) (min (n + 1) (lines cs).length)) (min (n + 1) (lines cs).length) =
      some (((lines cs).take (n + 1)).drop (n - 2)) := by
  have all : (lines cs).take (min (n + 1) (lines cs).length) = (lines cs).take (n + 1) := by
    rw [List.take_eq_take_iff]
    omega
  have size : ((lines cs).take (n + 1)).length = min (n + 1) (lines cs).length := List.length_take
  rw [slice?_eq_some (Nat.min_le_right _ _) (Nat.min_le_right _ _), all, ← size]
  rcases Nat.le_total (n - 2) ((lines cs).take (n + 1)).length with inside | beyond
  · rw [Nat.min_eq_left inside]
  · -- no line is left, and the bounds meet
    rw [Nat.min_eq_right beyond, List.drop_length, List.drop_eq_nil_of_le beyond]

theorem excerptAt?_eq (before after : List Char) :
    excerptAt? (before ++ after) (encode before).length =
      some (excerpt (before ++ after) (before.count '\n' + 1)) := by
  unfold excerptAt?
  simp only [decode?_bytes_before, slice?_lines, Option.bind_eq_bind, Option.bind_some,
    Option.pure_def, excerpt, around, List.map_map, Function.comp_def]

/-! Excerpts of a text -/

theorem lineOf_append (before after : List Char) :
    lineOf (before ++ after) before.length = before.count '\n' + 1 := by
  rw [lineOf, List.take_left]

theorem exists_place_of_decode {α : Type} {d : Json.Decoder α} {s : String} {c : Complaint}
    (refused : decode d s = .error c) :
    ∃ before after, s.toList = before ++ after ∧ c.text = s.toList ∧
      c.line = before.count '\n' + 1 := by
  have place : ∀ m, lineOfMark s.toList m =
      (s.toList.take (s.toList.length - m)).count '\n' + 1 := fun _ => rfl
  unfold decode at refused
  dsimp only at refused
  split at refused
  · rename_i m unread
    cases refused
    exact ⟨_, _, (List.take_append_drop (s.toList.length - m) _).symm, rfl, place m⟩
  · split at refused
    · cases refused
    · cases refused
      exact ⟨_, _, (List.take_append_drop _ _).symm, rfl, place _⟩

theorem Complaint.exists_message (c : Complaint) : ∃ problem, c.message =
    "TOML parsing error at line " ++ Number.text c.line ++ ":\n" ++
      String.ofList (Text.joinChars ['\n'] (excerpt c.text c.line)) ++ "\n\nError:" ++ problem := by
  unfold message
  exact ⟨_, rfl⟩

theorem count_numbers (before after : List Char) :
    ((around (before ++ after) (before.count '\n' + 1)).map Prod.fst).count (before.count '\n' + 1) =
      if after = [] ∧ AtLineStart before then 0 else 1 := by
  have there := line_le_length_iff before after
  rw [around_numbers]
  by_cases behind : after = [] ∧ AtLineStart before
  · rw [if_pos behind, List.count_eq_zero, List.mem_range'_1]
    have beyond := mt there.mp (not_not_intro behind)
    omega
  · rw [if_neg behind]
    refine (List.Nodup.count List.nodup_range').trans (if_pos ?_)
    rw [List.mem_range'_1]
    have inside := there.mpr behind
    omega

/-- The excerpt around a place shows the line of the place and its neighbours, in order and with their
numbers, and no bound is out of range. The line of the place alone is marked, and no line is when nothing
stands behind the last line end and the place is there. Every complaint about a text shows such an
excerpt. -/
theorem excerpt_lines :
    (∀ before after : List Char,
      let text := before ++ after
      let n := before.count '\n' + 1
      lineOf text before.length = n ∧
      excerptAt? text (encode before).length = some (excerpt text n) ∧
      excerpt text n = (around text n).map (shownLine n) ∧
      (∀ i line, (i, line) ∈ around text n ↔
        max 1 (n - 1) ≤ i ∧ i ≤ min (n + 1) (lines text).length ∧ (lines text)[i - 1]? = some line) ∧
      ((around text n).map Prod.fst).Pairwise (· < ·) ∧
      (∀ entry ∈ around text n, Marked (shownLine n entry) ↔ entry.1 = n) ∧
      (excerpt text n).countP (fun shown => Marked shown) =
        if after = [] ∧ AtLineStart before then 0 else 1) ∧
    ∀ {α : Type} (d : Json.Decoder α) (s : String) (c : Complaint), decode d s = .error c →
      ∃ before after problem, s.toList = before ++ after ∧
        c.message = "TOML parsing error at line " ++ Number.text (before.count '\n' + 1) ++ ":\n" ++
          String.ofList (Text.joinChars ['\n'] (excerpt s.toList (before.count '\n' + 1))) ++
            "\n\nError:" ++ problem := by
  refine ⟨fun before after => ?_, fun d s c refused => ?_⟩
  · intro text n
    refine ⟨lineOf_append before after, excerptAt?_eq before after, rfl, fun i line => ?_, ?_,
      fun entry _ => marked_shownLine entry, ?_⟩
    · rw [mem_around_iff]
      constructor
      · rintro ⟨first, last, there⟩
        obtain ⟨inside, -⟩ := List.getElem?_eq_some_iff.mp there
        exact ⟨by omega, by omega, there⟩
      · rintro ⟨first, last, there⟩
        exact ⟨by omega, by omega, there⟩
    · rw [around_numbers]
      exact List.pairwise_lt_range'
    · rw [countP_marked_excerpt]
      exact count_numbers before after
  · obtain ⟨before, after, split, text, line⟩ := exists_place_of_decode refused
    obtain ⟨problem, message⟩ := c.exists_message
    rw [text, line] at message
    exact ⟨before, after, problem, split, message⟩

theorem excerpt_lines_malformed :
    (∃ c, decode Json.bool "a = 1\nb\n" = .error c ∧ ∃ before after problem,
      "a = 1\nb\n".toList = before ++ after ∧
      c.message = "TOML parsing error at line " ++ Number.text (before.count '\n' + 1) ++ ":\n" ++
        String.ofList (Text.joinChars ['\n'] (excerpt "a = 1\nb\n".toList (before.count '\n' + 1))) ++
          "\n\nError:" ++ problem) ∧
    (excerpt "a = 1\nb\n".toList 2).map String.ofList = ["       1 | a = 1", ">>>    2 | b"] ∧
    (excerpt "a = 1\nb\n".toList 3).countP (fun shown => Marked shown) = 0 := by
  obtain ⟨places, complaints⟩ := excerpt_lines
  refine ⟨?_, by decide +kernel, ?_⟩
  · have line : (match decode Json.bool "a = 1\nb\n" with | .ok _ => 0 | .error c => c.line) = 2 := by
      decide +kernel
    cases refused : decode Json.bool "a = 1\nb\n" with
    | ok b =>
      rw [refused] at line
      cases line
    | error c => exact ⟨c, rfl, complaints Json.bool _ c refused⟩
  · obtain ⟨-, -, -, -, -, -, marked⟩ := places "a = 1\nb\n".toList []
    rw [List.append_nil] at marked
    exact marked

end DeployPlan.Toml
