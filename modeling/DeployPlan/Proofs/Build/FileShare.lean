import Mathlib.Data.List.DropRight
import DeployPlan.Build.Resolver

/-!
Builds on a file share. The number of a build is the last segment of its locator. Separators at the end
of the locator do not count, and a locator of separators alone names no build.
-/

namespace DeployPlan

def Separators (cs : List Char) : Prop :=
  ∀ c ∈ cs, c = '/' ∨ c = '\\'

/-- A segment of a path, without separators in it, that ends the path or has only separators behind it.
Before it stands nothing, or a separator last. It is empty only if the path has no other segment. -/
structure IsLastSegment (path segment : List Char) : Prop where
  split : ∃ before after, path = before ++ segment ++ after ∧ Separators after ∧
    (before = [] ∨ ∃ front c, before = front ++ [c] ∧ Separators [c])
  solid : ∀ c ∈ segment, c ≠ '/' ∧ c ≠ '\\'
  empty_iff : segment = [] ↔ Separators path

theorem separators_iff {cs : List Char} : Separators cs ↔ ∀ c ∈ cs, isPathSeparator c = true := by
  simp only [Separators, isPathSeparator, Bool.or_eq_true, decide_eq_true_eq]

theorem isPathSeparator_eq_false_iff {c : Char} : isPathSeparator c = false ↔ c ≠ '/' ∧ c ≠ '\\' := by
  simp only [isPathSeparator, Bool.or_eq_false_iff, decide_eq_false_iff_not, ne_eq]

theorem lastSegment_append (path : List Char) {after : List Char} (separators : Separators after) :
    lastSegment (path ++ after) = lastSegment path := by
  have dropped : ∀ c ∈ after.reverse, isPathSeparator c = true := by
    intro c member
    exact separators_iff.mp separators c (List.mem_reverse.mp member)
  rw [lastSegment, List.reverse_append, List.dropWhile_append_of_pos dropped, ← lastSegment]

theorem lastSegment_of_separators {path : List Char} (separators : Separators path) :
    lastSegment path = [] := by
  have none := lastSegment_append [] separators
  rw [List.nil_append] at none
  exact none

theorem lastSegment_segment {before segment : List Char} (nonempty : segment ≠ [])
    (solid : ∀ c ∈ segment, isPathSeparator c = false)
    (start : before = [] ∨ ∃ front c, before = front ++ [c] ∧ Separators [c]) :
    lastSegment (before ++ segment) = segment := by
  have solid' : ∀ c ∈ segment.reverse, (!isPathSeparator c) = true := by
    intro c member
    rw [solid c (List.mem_reverse.mp member)]
    rfl
  obtain ⟨c, rest, reversed⟩ := List.exists_cons_of_ne_nil (List.reverse_ne_nil_iff.mpr nonempty)
  have last : ¬isPathSeparator c = true := by
    simpa using solid' c (reversed ▸ List.mem_cons_self)
  have stops : before.reverse.takeWhile (!isPathSeparator ·) = [] := by
    rcases start with rfl | ⟨front, d, rfl, separator⟩
    · rfl
    · have cut := separators_iff.mp separator d List.mem_cons_self
      rw [List.reverse_append, List.reverse_singleton, List.singleton_append,
        List.takeWhile_cons_of_neg (by simp [cut])]
  -- Read from the end: no separator to pass over, then the segment up to the one in front of it.
  have kept : (segment.reverse ++ before.reverse).dropWhile isPathSeparator =
      segment.reverse ++ before.reverse := by
    rw [reversed, List.cons_append, List.dropWhile_cons_of_neg last]
  rw [lastSegment, List.reverse_append, kept, List.takeWhile_append_of_pos solid', stops,
    List.append_nil, List.reverse_reverse]

theorem lastSegment_eq_nil_iff {path : List Char} : lastSegment path = [] ↔ Separators path := by
  constructor
  · intro none
    rw [separators_iff]
    rw [lastSegment, List.reverse_eq_nil_iff] at none
    have kept := List.head?_dropWhile_not isPathSeparator path.reverse
    cases rest : path.reverse.dropWhile isPathSeparator with
    | nil =>
      intro c member
      exact List.dropWhile_eq_nil_iff.mp rest c (List.mem_reverse.mpr member)
    | cons c more =>
      rw [rest] at none kept
      have solid : isPathSeparator c = false := by simpa using kept
      rw [List.takeWhile_cons_of_pos (by simp [solid])] at none
      cases none
  · exact lastSegment_of_separators

theorem isLastSegment_lastSegment (path : List Char) : IsLastSegment path (lastSegment path) where
  split := by
    -- seen from the end: separators, the segment, and what is left
    let rest := path.reverse.dropWhile isPathSeparator
    refine ⟨(rest.dropWhile (!isPathSeparator ·)).reverse,
      (path.reverse.takeWhile isPathSeparator).reverse, ?_, ?_, ?_⟩
    · apply List.reverse_injective
      rw [lastSegment, List.reverse_append, List.reverse_append, List.reverse_reverse,
        List.reverse_reverse, List.reverse_reverse, List.takeWhile_append_dropWhile,
        List.takeWhile_append_dropWhile]
    · rw [separators_iff]
      intro c member
      exact List.mem_takeWhile_imp (List.mem_reverse.mp member)
    · have kept := List.head?_dropWhile_not (!isPathSeparator ·) rest
      cases left : rest.dropWhile (!isPathSeparator ·) with
      | nil => exact Or.inl rfl
      | cons c more =>
        right
        rw [left] at kept
        refine ⟨more.reverse, c, List.reverse_cons, ?_⟩
        rw [separators_iff]
        simpa using kept
  solid := by
    intro c member
    have inside := List.mem_takeWhile_imp (List.mem_reverse.mp member)
    rw [← isPathSeparator_eq_false_iff]
    simpa using inside
  empty_iff := lastSegment_eq_nil_iff

theorem isLastSegment_iff {path segment : List Char} :
    IsLastSegment path segment ↔ segment = lastSegment path := by
  constructor
  · rintro ⟨⟨before, after, rfl, separators, start⟩, solid, empty⟩
    rw [lastSegment_append _ separators]
    by_cases none : segment = []
    · rw [none, List.append_nil, lastSegment_of_separators]
      intro c member
      exact empty.mp none c (by simp [member])
    · have whole : ∀ c ∈ segment, isPathSeparator c = false :=
        fun c member => isPathSeparator_eq_false_iff.mpr (solid c member)
      exact (lastSegment_segment none whole start).symm
  · rintro rfl
    exact isLastSegment_lastSegment path

namespace BuildReference

/-- The number of a build on a file share is the last segment of its locator and nothing else. Separators
behind the locator do not change it, and the build is fetched from the locator as it is given. -/
theorem onFileShare_last_segment (r : BuildReference) :
    (∀ number : String,
      IsLastSegment r.locator.toList number.toList ↔ number = r.onFileShare.buildNumber) ∧
    (∀ tail : String, Separators tail.toList →
      (onFileShare { r with locator := r.locator ++ tail }).buildNumber =
        r.onFileShare.buildNumber) ∧
    r.onFileShare.dropLocation = r.locator ∧ r.onFileShare.uri = r.locator := by
  refine ⟨?_, ?_, rfl, rfl⟩
  · intro number
    rw [isLastSegment_iff, onFileShare, ← String.toList_inj, String.toList_ofList]
  · intro tail separators
    rw [onFileShare, onFileShare, String.toList_append, lastSegment_append _ separators]

theorem onFileShare_last_segment_mixed :
    IsLastSegment "\\\\fs\\drops/4.5.6".toList "4.5.6".toList ∧ Separators "\\/".toList ∧
      (onFileShare ⟨"", "\\\\fs\\drops/4.5.6\\/"⟩).buildNumber = "4.5.6" := by
  obtain ⟨segment, trailing, -, -⟩ := onFileShare_last_segment ⟨"", "\\\\fs\\drops/4.5.6"⟩
  have number : "4.5.6" = (onFileShare ⟨"", "\\\\fs\\drops/4.5.6"⟩).buildNumber := by decide +kernel
  have separators : Separators "\\/".toList := by simp [Separators]
  refine ⟨(segment "4.5.6").mpr number, separators, ?_⟩
  have longer := trailing "\\/" separators
  rw [← number] at longer
  exact longer

end BuildReference

end DeployPlan
