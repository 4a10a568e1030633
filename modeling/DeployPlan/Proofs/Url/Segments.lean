import Mathlib.Data.List.Basic
import DeployPlan.Proofs.Url.Percent
import DeployPlan.Url.Parsing
import DeployPlan.Url.Segments

/-!
Segments that are added to a path. A name is added as one segment, from which it is read back, unless it is
a dot or two, tabs or line ends are dropped from it, or it is taken for a drive.
-/

namespace DeployPlan.Url

open Text (Utf8.encode lowerAscii)

/-! Dots -/

theorem lowerAscii_eq {c d : Char} (lower : lowerAscii c = d) :
    c = d ∨ 65 ≤ c.toNat ∧ d.toNat = c.toNat + 32 := by
  have shifted : ∀ n ≤ 90, (Char.ofNat (n + 32)).toNat = n + 32 := by decide
  unfold lowerAscii at lower
  split at lower
  · rename_i capital
    rw [← lower]
    exact .inr ⟨capital.1, shifted c.toNat capital.2⟩
  · exact .inl lower

theorem eq_of_lowerAscii {c d : Char} (lower : lowerAscii c = d) (early : d.toNat < 97) : c = d := by
  rcases lowerAscii_eq lower with same | ⟨capital, shifted⟩
  · exact same
  · omega

theorem eq_of_lowerAscii_e {c : Char} (lower : lowerAscii c = 'e') : c = 'e' ∨ c = 'E' := by
  rcases lowerAscii_eq lower with same | ⟨-, shifted⟩
  · exact .inl same
  · right
    have code : 'e'.toNat = 101 := rfl
    apply Char.toNat_inj.mp
    change c.toNat = 69
    omega

def DotSpelled (cs : List Char) : Prop :=
  cs = ['.'] ∨ cs = ['%', '2', 'e']

theorem DotSpelled.ahead {dot cs ds : List Char} (spelled : DotSpelled dot)
    (lower : cs.map lowerAscii = dot ++ ds) :
    ∃ rest, rest.map lowerAscii = ds ∧
      percentDecode cs = Utf8.encode ['.'] ++ percentDecode rest := by
  rcases spelled with rfl | rfl
  · obtain ⟨c, rest, rfl, first, later⟩ := List.map_eq_cons_iff.mp lower
    cases eq_of_lowerAscii first (by decide)
    exact ⟨rest, later, percentDecode_cons_of_ne (by decide) rest⟩
  · obtain ⟨p, _, rfl, percent, lower⟩ := List.map_eq_cons_iff.mp lower
    obtain ⟨t, _, rfl, two, lower⟩ := List.map_eq_cons_iff.mp lower
    obtain ⟨e, rest, rfl, letter, later⟩ := List.map_eq_cons_iff.mp lower
    cases eq_of_lowerAscii percent (by decide)
    cases eq_of_lowerAscii two (by decide)
    refine ⟨rest, later, ?_⟩
    rcases eq_of_lowerAscii_e letter with rfl | rfl <;> rfl

theorem DotSpelled.decoded {dot cs : List Char} (spelled : DotSpelled dot)
    (lower : cs.map lowerAscii = dot) : percentDecode cs = Utf8.encode ['.'] := by
  rw [← List.append_nil dot] at lower
  obtain ⟨rest, later, decoded⟩ := spelled.ahead lower
  cases List.map_eq_nil_iff.mp later
  exact decoded

theorem DotSpelled.decoded_two {first second cs : List Char} (spelled : DotSpelled first)
    (spelled' : DotSpelled second) (lower : cs.map lowerAscii = first ++ second) :
    percentDecode cs = Utf8.encode ['.', '.'] := by
  obtain ⟨rest, later, decoded⟩ := spelled.ahead lower
  rw [decoded, spelled'.decoded later]
  rfl

theorem lowerCase_eq_iff {s t : String} : Text.lowerCase s = t ↔ s.toList.map lowerAscii = t.toList := by
  rw [Text.lowerCase]
  constructor
  · rintro rfl
    rw [String.toList_ofList]
  · intro same
    rw [same, String.ofList_toList]

theorem percentDecode_singleDot {s : String} (dot : isSingleDot s = true) :
    percentDecode s.toList = Utf8.encode ['.'] := by
  simp only [isSingleDot, Bool.or_eq_true, beq_iff_eq, lowerCase_eq_iff] at dot
  rcases dot with rfl | coded
  · rfl
  · exact DotSpelled.decoded (.inr rfl) coded

theorem percentDecode_doubleDot {s : String} (dots : isDoubleDot s = true) :
    percentDecode s.toList = Utf8.encode ['.', '.'] := by
  simp only [isDoubleDot, List.contains_cons, Bool.or_eq_true, beq_iff_eq, List.contains_nil,
    Bool.false_eq_true, or_false, lowerCase_eq_iff] at dots
  rcases dots with plain | first | second | both
  · exact DotSpelled.decoded_two (.inl rfl) (.inl rfl) plain
  · exact DotSpelled.decoded_two (.inr rfl) (.inl rfl) first
  · exact DotSpelled.decoded_two (.inl rfl) (.inr rfl) second
  · exact DotSpelled.decoded_two (.inr rfl) (.inr rfl) both

/-! Names as segments -/

def segmentText (kind : SchemeKind) (name : String) : String :=
  String.ofList (percentEncode (segmentSet kind) name.toList)

/-- One segment of a path, wherever it is read, and the name it stands for. -/
structure SegmentOf (kind : SchemeKind) (name segment : String) : Prop where
  decoded : percentDecode segment.toList = Utf8.encode name.toList
  single : ∀ c ∈ segment.toList, isSlash kind c = false ∧ endsPath c = false
  proper : isSingleDot segment = false ∧ isDoubleDot segment = false

theorem SegmentOf.name_unique {kind kind' : SchemeKind} {name name' segment : String}
    (one : SegmentOf kind name segment) (other : SegmentOf kind' name' segment) : name = name' := by
  apply String.toList_injective
  apply Text.Utf8.encode_injective
  rw [← one.decoded, other.decoded]

theorem segment_nonempty {name segment : String} (nonempty : name ≠ "")
    (decoded : percentDecode segment.toList = Utf8.encode name.toList) : segment ≠ "" := by
  rintro rfl
  have empty : name.toList = [] := Text.Utf8.encode_injective decoded.symm
  exact nonempty (String.toList_injective empty)

theorem SegmentOf.no_slash {kind : SchemeKind} {name segment : String}
    (stands : SegmentOf kind name segment) : '/' ∉ segment.toList := by
  intro member
  have inside := (stands.single '/' member).1
  rw [isSlash] at inside
  cases inside

theorem segmentSet_percent (kind : SchemeKind) : segmentSet kind '%' = true := by
  cases kind <;> decide

theorem inside_of_ne {kind : SchemeKind} {c : Char} (slash : c ≠ '/') (question : c ≠ '?')
    (hash : c ≠ '#') (backslash : kind ≠ .other → c ≠ '\\') :
    isSlash kind c = false ∧ endsPath c = false := by
  constructor
  · by_cases other : kind = .other
    · simp [isSlash, slash, other]
    · simp [isSlash, slash, backslash other]
  · simp [endsPath, question, hash]

theorem inside_of_plain {kind : SchemeKind} {c : Char} (plain : segmentSet kind c = false) :
    isSlash kind c = false ∧ endsPath c = false := by
  have apart : ∀ d, segmentSet kind d = true → c ≠ d := by
    rintro d escaped rfl
    rw [escaped] at plain
    cases plain
  apply inside_of_ne
  · exact apart '/' (by cases kind <;> decide)
  · exact apart '?' (by cases kind <;> decide)
  · exact apart '#' (by cases kind <;> decide)
  · intro web
    exact apart '\\' (by cases kind <;> first | decide | exact absurd rfl web)

theorem inside_upperHexDigit (kind : SchemeKind) :
    ∀ n, n < 16 → isSlash kind (Text.upperHexDigit n) = false ∧
      endsPath (Text.upperHexDigit n) = false := by
  cases kind <;> decide

theorem percentDecode_segmentText (kind : SchemeKind) (name : String) :
    percentDecode (segmentText kind name).toList = Utf8.encode name.toList := by
  rw [segmentText, String.toList_ofList, percentDecode_percentEncode (segmentSet_percent kind)]

theorem inside_of_mem_segmentText {kind : SchemeKind} {name : String} {c : Char}
    (member : c ∈ (segmentText kind name).toList) : isSlash kind c = false ∧ endsPath c = false := by
  rw [segmentText, String.toList_ofList] at member
  rcases mem_percentEncode member with plain | rfl | ⟨n, small, rfl⟩
  · exact inside_of_plain plain
  · cases kind <;> decide
  · exact inside_upperHexDigit kind n small

theorem segmentText_dot {kind : SchemeKind} {name : String}
    (dot : isSingleDot (segmentText kind name) = true) : name = "." := by
  have decoded := percentDecode_singleDot dot
  rw [percentDecode_segmentText] at decoded
  exact String.toList_injective (Text.Utf8.encode_injective decoded)

theorem segmentText_dots {kind : SchemeKind} {name : String}
    (dots : isDoubleDot (segmentText kind name) = true) : name = ".." := by
  have decoded := percentDecode_doubleDot dots
  rw [percentDecode_segmentText] at decoded
  exact String.toList_injective (Text.Utf8.encode_injective decoded)

theorem segmentOf_segmentText (kind : SchemeKind) {name : String} (one : name ≠ ".")
    (two : name ≠ "..") : SegmentOf kind name (segmentText kind name) where
  decoded := percentDecode_segmentText kind name
  single _ member := inside_of_mem_segmentText member
  proper := ⟨eq_false_of_ne_true fun dot => one (segmentText_dot dot),
    eq_false_of_ne_true fun dots => two (segmentText_dots dots)⟩

/-! Paths -/

def rooted (path : List String) : List String :=
  if path = [""] then [] else path

/-- A letter, and a colon or a bar in its place: in front of a path of a file this is taken for a
drive. -/
def DriveAhead (name : String) : Prop :=
  ∃ c d rest, name.toList = c :: d :: rest ∧ Text.isAsciiLetter c = true ∧ (d = ':' ∨ d = '|')

/-- Nothing is dropped from a name without tabs and line ends, and it is no dots. -/
structure Keepable (name : String) : Prop where
  nonempty : name ≠ ""
  proper : name ≠ "." ∧ name ≠ ".."
  whole : ∀ c ∈ name.toList, c ≠ '\t' ∧ c ≠ '\n' ∧ c ≠ '\r'

theorem withoutLineEnds_eq_self_iff {cs : List Char} :
    withoutLineEnds cs = cs ↔ ∀ c ∈ cs, c ≠ '\t' ∧ c ≠ '\n' ∧ c ≠ '\r' := by
  rw [withoutLineEnds, List.filter_eq_self]
  simp only [decide_eq_true_eq]

theorem driveAhead_of_isDriveLetter {name : String} (drive : isDriveLetter name.toList = true) :
    DriveAhead name := by
  unfold isDriveLetter at drive
  split at drive
  · rename_i c d chars
    rw [Bool.and_eq_true, Bool.or_eq_true, decide_eq_true_eq, decide_eq_true_eq] at drive
    exact ⟨c, d, [], chars, drive⟩
  · cases drive

theorem driveAhead_of_isDrive {name : String}
    (drive : isDrive (String.ofList (name.toList.take 2)) = true) : DriveAhead name := by
  unfold isDrive at drive
  split at drive
  · rename_i c chars
    rw [String.toList_ofList] at chars
    have whole := List.take_append_drop 2 name.toList
    rw [chars] at whole
    exact ⟨c, ':', _, whole.symm, drive, .inl rfl⟩
  · cases drive

theorem pushSegment_of_keepable {kind : SchemeKind} {path : List String} {name : String}
    (keepable : Keepable name) (noDrive : kind = .file → rooted path = [] → ¬DriveAhead name) :
    pushSegment kind path name = rooted path ++ [segmentText kind name] := by
  obtain ⟨-, ⟨one, two⟩, whole⟩ := keepable
  have dot : isSingleDot (segmentText kind name) = false :=
    eq_false_of_ne_true fun dot => one (segmentText_dot dot)
  have dots : isDoubleDot (segmentText kind name) = false :=
    eq_false_of_ne_true fun dots => two (segmentText_dots dots)
  have drives {b : Bool} (drive : b = true → DriveAhead name) :
      ¬(decide (kind = .file) && (rooted path).isEmpty && b) = true := by
    intro taken
    simp only [Bool.and_eq_true, decide_eq_true_eq, List.isEmpty_iff] at taken
    exact noDrive taken.1.1 taken.1.2 (drive taken.2)
  unfold pushSegment
  rw [← rooted, withoutLineEnds_eq_self_iff.mpr whole, addPiece, ← segmentText,
    if_neg (by simp [one, two]), dots, dot, if_neg (drives driveAhead_of_isDriveLetter),
    if_neg (drives driveAhead_of_isDrive)]
  rfl

/-- What becomes of a path and a name that is no dots: an empty segment comes for hidden dots, and else what
is left of the name without its tabs and line ends; at the root of a file that may be a drive, perhaps with
a segment behind it. -/
inductive Pushed (kind : SchemeKind) (path : List String) (name : String) : List String → Prop
  | hidden (front : List String) : Pushed kind path name (front ++ [""])
  | kept : Pushed kind path name
      (rooted path ++ [String.ofList (percentEncode (segmentSet kind) (withoutLineEnds name.toList))])
  | drive {c : Char} (letter : Text.isAsciiLetter c = true) (root : rooted path = []) :
      Pushed kind path name [String.ofList [c, ':']]
  | divided {drive rest : String} (solid : drive ≠ "") (root : rooted path = []) :
      Pushed kind path name [drive, rest]

theorem pushed_pushSegment (kind : SchemeKind) (path : List String) {name : String} (one : name ≠ ".")
    (two : name ≠ "..") : Pushed kind path name (pushSegment kind path name) := by
  unfold pushSegment
  rw [← rooted, if_neg (by simp [one, two]), addPiece]
  split
  · exact .hidden _
  split
  · exact .hidden _
  split
  · rename_i taken
    simp only [Bool.and_eq_true, decide_eq_true_eq, List.isEmpty_iff] at taken
    obtain ⟨⟨-, root⟩, letter⟩ := taken
    unfold isDriveLetter at letter
    split at letter
    · rename_i c d chars
      rw [Bool.and_eq_true] at letter
      rw [chars]
      exact .drive letter.1 root
    · cases letter
  split
  · rename_i taken
    simp only [Bool.and_eq_true, decide_eq_true_eq, List.isEmpty_iff] at taken
    obtain ⟨⟨-, root⟩, drive⟩ := taken
    refine .divided ?_ root
    intro empty
    rw [empty] at drive
    cases drive
  · exact .kept

theorem isAsciiLetter_whole {c : Char} (letter : Text.isAsciiLetter c = true) :
    c ≠ '%' ∧ c ≠ '\t' ∧ c ≠ '\n' ∧ c ≠ '\r' := by
  refine ⟨?_, ?_, ?_, ?_⟩
  all_goals
    rintro rfl
    cases letter

theorem pushSegment_dots {kind : SchemeKind} {path : List String} {name : String}
    (dots : name = "." ∨ name = "..") : pushSegment kind path name = path := by
  rcases dots with rfl | rfl <;> rfl

theorem pushSegment_congr {kind : SchemeKind} {path : List String} {name other : String}
    (one : name ≠ "." ∧ name ≠ "..") (two : other ≠ "." ∧ other ≠ "..")
    (same : withoutLineEnds name.toList = withoutLineEnds other.toList) :
    pushSegment kind path name = pushSegment kind path other := by
  have proper {s : String} (apart : s ≠ "." ∧ s ≠ "..") : ¬(s == "." || s == "..") = true := by
    simp [apart]
  unfold pushSegment
  rw [if_neg (proper one), if_neg (proper two), same]

theorem keepable_of_pushSegment {kind : SchemeKind} {path front : List String} {name segment : String}
    (nonempty : name ≠ "") (one : name ≠ ".") (two : name ≠ "..")
    (pushed : pushSegment kind path name = front ++ [segment])
    (decoded : percentDecode segment.toList = Utf8.encode name.toList) :
    front = rooted path ∧ Keepable name ∨ rooted path = [] ∧ ∃ drive, drive ≠ "" ∧ front = [drive] := by
  have result := pushed_pushSegment kind path one two
  rw [pushed] at result
  generalize whole : front ++ [segment] = after at result
  cases result with
  | hidden before =>
    obtain ⟨-, last⟩ := List.append_inj' whole rfl
    cases last
    exact absurd rfl (segment_nonempty nonempty decoded)
  | kept =>
    obtain ⟨same, last⟩ := List.append_inj' whole rfl
    cases last
    -- what is read is the name as it was encoded, so nothing was dropped from it
    rw [String.toList_ofList, percentDecode_percentEncode (segmentSet_percent kind)] at decoded
    have undropped := withoutLineEnds_eq_self_iff.mp (Text.Utf8.encode_injective decoded)
    exact .inl ⟨same, nonempty, ⟨one, two⟩, undropped⟩
  | @drive c letter root =>
    have only : front ++ [segment] = [] ++ [String.ofList [c, ':']] := whole
    obtain ⟨same, last⟩ := List.append_inj' only rfl
    cases last
    -- a letter and a colon stand for themselves, so this is the whole name
    obtain ⟨escape, inside⟩ := isAsciiLetter_whole letter
    rw [String.toList_ofList, percentDecode_cons_of_ne escape,
      percentDecode_cons_of_ne (by decide)] at decoded
    have chars : [c, ':'] = name.toList := Text.Utf8.encode_injective decoded
    refine .inl ⟨same.trans root.symm, nonempty, ⟨one, two⟩, ?_⟩
    rw [← chars]
    simpa using inside
  | @divided drive rest solid root =>
    have two : front ++ [segment] = [drive] ++ [rest] := whole
    exact .inr ⟨root, drive, solid, (List.append_inj' two rfl).1⟩

/-! Plain segments -/

def isWordChar (c : Char) : Bool :=
  Text.isAsciiLetter c || Text.isAsciiDigit c || c = '_'

structure PlainSegment (s : String) : Prop where
  nonempty : s ≠ ""
  word : ∀ c ∈ s.toList, isWordChar c = true

theorem plainSegment_of_all {s : String} (nonempty : s ≠ "") (word : s.toList.all isWordChar = true) :
    PlainSegment s :=
  ⟨nonempty, List.all_eq_true.mp word⟩

theorem toNat_lt_of_isWordChar {c : Char} (word : isWordChar c = true) : c.toNat < 128 := by
  simp only [isWordChar, Text.isAsciiLetter, Text.isAsciiDigit, Bool.or_eq_true, Bool.and_eq_true,
    decide_eq_true_eq] at word
  rcases word with ((small | capital) | digit) | rfl
  · exact Nat.lt_of_le_of_lt small.2 (by decide)
  · exact Nat.lt_of_le_of_lt capital.2 (by decide)
  · exact Nat.lt_of_le_of_lt digit.2 (by decide)
  · decide

theorem wordChar_plain (kind : SchemeKind) :
    ∀ n, n < 128 → isWordChar (Char.ofNat n) = true → segmentSet kind (Char.ofNat n) = false := by
  cases kind <;> decide

theorem wordChar_ne : ∀ n, n < 128 → isWordChar (Char.ofNat n) = true →
    Char.ofNat n ∉ ['.', '/', ':', '|', '\t', '\n', '\r'] := by
  decide

namespace PlainSegment

variable {s : String} (plain : PlainSegment s)

include plain

theorem segmentText_eq (kind : SchemeKind) : segmentText kind s = s := by
  have same : percentEncode (segmentSet kind) s.toList = s.toList := by
    apply percentEncode_of_forall
    intro c member
    have word := plain.word c member
    have kept := wordChar_plain kind c.toNat (toNat_lt_of_isWordChar word)
    rw [Char.ofNat_toNat] at kept
    exact kept word
  rw [segmentText, same, String.ofList_toList]

theorem ne_of_mem {c : Char} (member : c ∈ s.toList) :
    c ∉ ['.', '/', ':', '|', '\t', '\n', '\r'] := by
  have word := plain.word c member
  have apart := wordChar_ne c.toNat (toNat_lt_of_isWordChar word)
  rw [Char.ofNat_toNat] at apart
  exact apart word

theorem keepable : Keepable s where
  nonempty := plain.nonempty
  proper := by
    constructor
    all_goals
      rintro rfl
      exact plain.ne_of_mem (c := '.') (by decide) (by decide)
  whole c member := by
    have apart := plain.ne_of_mem member
    simp only [List.mem_cons, not_or] at apart
    exact ⟨apart.2.2.2.2.1, apart.2.2.2.2.2.1, apart.2.2.2.2.2.2.1⟩

theorem no_slash : '/' ∉ s.toList := by
  intro member
  exact plain.ne_of_mem member (by decide)

theorem not_driveAhead : ¬DriveAhead s := by
  rintro ⟨c, d, rest, chars, -, rfl | rfl⟩
  · exact plain.ne_of_mem (c := ':') (by simp [chars]) (by decide)
  · exact plain.ne_of_mem (c := '|') (by simp [chars]) (by decide)

theorem pushed (kind : SchemeKind) (path : List String) :
    pushSegment kind path s = rooted path ++ [s] := by
  rw [pushSegment_of_keepable plain.keepable fun _ _ => plain.not_driveAhead, plain.segmentText_eq]

end PlainSegment

theorem rooted_concat {path : List String} {s : String} (nonempty : s ≠ "") :
    rooted (path ++ [s]) = path ++ [s] := by
  apply if_neg
  intro same
  obtain ⟨-, last⟩ := List.append_inj' (show path ++ [s] = [] ++ [""] from same) rfl
  exact nonempty (List.cons.inj last).1

theorem eq_of_rooted {path front : List String} {s : String} (same : rooted path = front ++ [s]) :
    path = front ++ [s] := by
  unfold rooted at same
  split at same
  · exact absurd same.symm (by simp)
  · exact same

theorem foldl_pushSegment {kind : SchemeKind} {path segments : List String}
    (settled : rooted path = path) (plain : ∀ s ∈ segments, PlainSegment s) :
    segments.foldl (pushSegment kind) path = path ++ segments := by
  induction segments generalizing path with
  | nil => rw [List.foldl_nil, List.append_nil]
  | cons s segments ih =>
    obtain ⟨first, later⟩ := List.forall_mem_cons.mp plain
    rw [List.foldl_cons, first.pushed kind path, settled, ih (rooted_concat first.nonempty) later,
      List.append_assoc, List.singleton_append]

/-! Bases -/

def withoutEmptyEnd (names : List String) : List String :=
  if names.getLast? = some "" then names.dropLast else names

theorem rooted_dropEmptyEnd {names : List String} (several : names ≠ ["", ""]) :
    rooted (dropEmptyEnd names) = withoutEmptyEnd names := by
  rcases names with _ | ⟨a, _ | ⟨b, rest⟩⟩
  · rfl
  · by_cases empty : a = ""
    · subst empty
      rfl
    · simp [rooted, dropEmptyEnd, withoutEmptyEnd, empty]
  · have trimmed : dropEmptyEnd (a :: b :: rest) = withoutEmptyEnd (a :: b :: rest) := by
      simp [dropEmptyEnd, withoutEmptyEnd]
    rw [trimmed, rooted, if_neg]
    intro root
    unfold withoutEmptyEnd at root
    split at root
    · rename_i last
      have whole := List.dropLast_append_getLast? _ last
      rw [root] at whole
      exact several whole.symm
    · cases root

end DeployPlan.Url
