import DeployPlan.Proofs.Json.Number
import DeployPlan.Proofs.Url.Pairs
import DeployPlan.Proofs.Url.Segments
import DeployPlan.Web.BuildServer

/-!
Endpoints. The endpoint of a project lies below the base, behind one segment that stands for the project,
and carries the version last in its query. Names of projects that are dots, or hold tabs or line ends, are
not kept: they lead to the endpoint of the base itself or of another project.
-/

namespace DeployPlan

namespace Url

/-! Written paths -/

theorem slashed_cons (n : String) (names : List String) :
    slashed (n :: names) = '/' :: (n.toList ++ slashed names) := by
  rw [slashed, List.flatMap_cons, List.cons_append, ← slashed]

theorem takeWhile_slashed {n : String} (solid : '/' ∉ n.toList) (names : List String) :
    (n.toList ++ slashed names).takeWhile (· ≠ '/') = n.toList := by
  have stops : (slashed names).takeWhile (· ≠ '/') = [] := by
    cases names with
    | nil => rfl
    | cons m names => rw [slashed_cons, List.takeWhile_cons_of_neg (by simp)]
  rw [List.takeWhile_append_of_pos, stops, List.append_nil]
  intro c member
  simpa using fun same : c = '/' => solid (same ▸ member)

theorem slashed_injective {names names' : List String} (solid : ∀ n ∈ names, '/' ∉ n.toList)
    (solid' : ∀ n ∈ names', '/' ∉ n.toList) (same : slashed names = slashed names') :
    names = names' := by
  induction names generalizing names' with
  | nil =>
    cases names' with
    | nil => rfl
    | cons m names' => cases same
  | cons n names ih =>
    cases names' with
    | nil => cases same
    | cons m names' =>
      obtain ⟨first, later⟩ := List.forall_mem_cons.mp solid
      obtain ⟨first', later'⟩ := List.forall_mem_cons.mp solid'
      rw [slashed_cons, slashed_cons] at same
      have behind := (List.cons.inj same).2
      -- the first segments are what stands before the next slash
      have front : n.toList = m.toList := by
        rw [← takeWhile_slashed first names, behind, takeWhile_slashed first' names']
      rw [front] at behind
      rw [String.toList_injective front, ih later later' (List.append_cancel_left behind)]

theorem pathChars_segments (bare : Bool) (front : List String) {s : String} (nonempty : s ≠ "")
    (rest : List String) :
    pathChars bare (.segments (front ++ s :: rest)) =
      (if bare = true ∧ front.head? = some "" then ['/', '.'] else []) ++
        slashed (front ++ s :: rest) := by
  unfold pathChars
  split
  · rename_i impossible
    cases impossible
  · rename_i n names same
    rw [Path.segments.injEq] at same
    cases front with
    | nil => exact absurd (List.cons.inj same).1 nonempty
    | cons a front =>
      obtain ⟨rfl, later⟩ := List.cons.inj same
      rw [same]
      simp
  · rename_i names short same
    cases same
    rw [if_neg, List.nil_append]
    rintro ⟨-, first⟩
    obtain ⟨front, rfl⟩ := List.head?_eq_some_iff.mp first
    obtain ⟨n, names, two⟩ := List.exists_cons_of_ne_nil (show front ++ s :: rest ≠ [] by simp)
    apply short n names
    rw [List.cons_append, two]

theorem pathChars_of_text {u : Url} {path path' : Path}
    (same : { u with path := path }.text = { u with path := path' }.text) :
    pathChars u.authority.isNone path = pathChars u.authority.isNone path' := by
  unfold text at same
  have chars := String.ofList_injective same
  unfold Url.chars at chars
  have behind := (List.cons.inj (List.append_cancel_left chars)).2
  exact List.append_cancel_left (List.append_cancel_right (List.append_cancel_right behind))

theorem segments_of_text {u : Url} {front rest rest' : List String} {s s' : String}
    (nonempty : s ≠ "") (nonempty' : s' ≠ "") (solid : ∀ n ∈ s :: rest, '/' ∉ n.toList)
    (solid' : ∀ n ∈ s' :: rest', '/' ∉ n.toList)
    (same : { u with path := .segments (front ++ s :: rest) }.text =
      { u with path := .segments (front ++ s' :: rest') }.text) : s = s' ∧ rest = rest' := by
  have written := pathChars_of_text same
  rw [pathChars_segments _ front nonempty, pathChars_segments _ front nonempty'] at written
  have slashes := List.append_cancel_left written
  rw [slashed, slashed, List.flatMap_append, List.flatMap_append] at slashes
  exact List.cons.inj (slashed_injective solid solid' (List.append_cancel_left slashes))

end Url

namespace Web.Client

variable {σ : Type}

/-- The address of an endpoint: that of the base with a segment for the project and fixed ones below its
path, and the version behind the pairs of its query. -/
structure EndpointOf (c : Client σ) (base : Url) (names : List String) (project : String)
    (segments : List String) (url : Url) : Prop where
  scheme : url.scheme = base.scheme
  authority : url.authority = base.authority
  fragment : url.fragment = base.fragment
  path : ∃ segment, Url.SegmentOf (Url.schemeKind base.scheme) project segment ∧
    url.path =
      .segments (Url.withoutEmptyEnd names ++ segment :: "_apis" :: "build" :: segments)
  pairs : url.pairs = base.pairs ++
    [(Text.Utf8.encode "api-version".toList, Text.Utf8.encode c.settings.apiVersion.toList)]

/-- Names that endpoints keep. -/
structure Keeps (base : Url) (names : List String) (project : String) : Prop where
  keepable : Url.Keepable project
  several : names ≠ ["", ""]
  noDrive : Url.schemeKind base.scheme = .file → Url.withoutEmptyEnd names = [] →
    ¬Url.DriveAhead project

variable (c : Client σ) {base : Url} {names : List String} {project : String}
  {segments : List String}

theorem plainSegment_apis : Url.PlainSegment "_apis" :=
  Url.plainSegment_of_all (by decide) (by decide)

theorem plainSegment_build : Url.PlainSegment "build" :=
  Url.plainSegment_of_all (by decide) (by decide)

theorem endpoint_eq (based : base.path = .segments names)
    (plain : ∀ s ∈ segments, Url.PlainSegment s) :
    c.endpoint base project segments = .ok
      { base.withPair "api-version" c.settings.apiVersion with
        path := .segments (Url.rooted (Url.pushSegment (Url.schemeKind base.scheme)
          (Url.dropEmptyEnd names) project) ++ "_apis" :: "build" :: segments) } := by
  have later : ∀ s ∈ "build" :: segments, Url.PlainSegment s :=
    List.forall_mem_cons.mpr ⟨plainSegment_build, plain⟩
  have whole : [project, "_apis", "build"] ++ segments = project :: "_apis" :: ("build" :: segments) :=
    rfl
  unfold endpoint Url.withSegments?
  rw [based, whole]
  dsimp only
  rw [List.foldl_cons, List.foldl_cons, plainSegment_apis.pushed,
    Url.foldl_pushSegment (Url.rooted_concat plainSegment_apis.nonempty) later, List.append_assoc,
    List.singleton_append]
  rfl

variable {c}

theorem Keeps.segmentOf (keeps : Keeps base names project) :
    Url.SegmentOf (Url.schemeKind base.scheme) project
      (Url.segmentText (Url.schemeKind base.scheme) project) :=
  Url.segmentOf_segmentText _ keeps.keepable.proper.1 keeps.keepable.proper.2

theorem Keeps.segment_nonempty (keeps : Keeps base names project) :
    Url.segmentText (Url.schemeKind base.scheme) project ≠ "" :=
  Url.segment_nonempty keeps.keepable.nonempty keeps.segmentOf.decoded

theorem Keeps.pushed (keeps : Keeps base names project) :
    Url.rooted (Url.pushSegment (Url.schemeKind base.scheme) (Url.dropEmptyEnd names) project) =
      Url.withoutEmptyEnd names ++ [Url.segmentText (Url.schemeKind base.scheme) project] := by
  have front := Url.rooted_dropEmptyEnd keeps.several
  rw [Url.pushSegment_of_keepable keeps.keepable (by rw [front]; exact keeps.noDrive), front,
    Url.rooted_concat keeps.segment_nonempty]

theorem Keeps.endpoint_eq (keeps : Keeps base names project) (based : base.path = .segments names)
    (plain : ∀ s ∈ segments, Url.PlainSegment s) :
    c.endpoint base project segments = .ok
      { base.withPair "api-version" c.settings.apiVersion with
        path := .segments (Url.withoutEmptyEnd names ++
          Url.segmentText (Url.schemeKind base.scheme) project :: "_apis" :: "build" :: segments) } := by
  rw [Client.endpoint_eq c based plain, keeps.pushed, List.append_assoc, List.singleton_append]

theorem Keeps.endpointOf (keeps : Keeps base names project) (based : base.path = .segments names)
    (plain : ∀ s ∈ segments, Url.PlainSegment s) {url : Url}
    (built : c.endpoint base project segments = .ok url) :
    c.EndpointOf base names project segments url := by
  rw [keeps.endpoint_eq based plain] at built
  cases built
  exact ⟨rfl, rfl, rfl, ⟨_, keeps.segmentOf, rfl⟩,
    (Url.pairs_withPair base "api-version" c.settings.apiVersion).1⟩

theorem no_segment_of_double {kind : Url.SchemeKind} {segment : String} (nonempty : project ≠ "")
    (pushed : Url.pushSegment kind (Url.dropEmptyEnd ["", ""]) project =
      Url.withoutEmptyEnd ["", ""] ++ [segment])
    (decoded : Url.percentDecode segment.toList = Text.Utf8.encode project.toList) : False := by
  have left : Url.dropEmptyEnd ["", ""] = [""] := by decide
  have right : Url.withoutEmptyEnd ["", ""] = [""] := by decide
  rw [left, right] at pushed
  by_cases dots : project = "." ∨ project = ".."
  · rw [Url.pushSegment_dots dots] at pushed
    simp at pushed
  · rw [not_or] at dots
    rcases Url.keepable_of_pushSegment nonempty dots.1 dots.2 pushed decoded with
      ⟨front, -⟩ | ⟨-, drive, solid, only⟩
    · cases front
    · exact solid (List.cons.inj only).1.symm

theorem keepable_of_endpointOf (based : base.path = .segments names) (nonempty : project ≠ "")
    (plain : ∀ s ∈ segments, Url.PlainSegment s) {url : Url}
    (built : c.endpoint base project segments = .ok url)
    (structured : c.EndpointOf base names project segments url) :
    Url.Keepable project ∧ names ≠ ["", ""] := by
  obtain ⟨segment, stands, there⟩ := structured.path
  rw [endpoint_eq c based plain] at built
  cases built
  rw [Url.Path.segments.injEq, List.append_cons (Url.withoutEmptyEnd names)] at there
  -- the fixed segments are the same on both sides, so the one before them came from the project
  have ended := List.append_cancel_right there
  have pushed := Url.eq_of_rooted ended
  have several : names ≠ ["", ""] := by
    rintro rfl
    exact no_segment_of_double nonempty pushed stands.decoded
  have front := Url.rooted_dropEmptyEnd several
  have dots : ¬(project = "." ∨ project = "..") := by
    intro dots
    rw [Url.pushSegment_dots dots, front] at ended
    simp at ended
  rw [not_or] at dots
  rcases Url.keepable_of_pushSegment nonempty dots.1 dots.2 pushed stands.decoded with
    ⟨-, keepable⟩ | ⟨root, drive, -, only⟩
  · exact ⟨keepable, several⟩
  · rw [front, only] at root
    cases root

theorem Keeps.solid (keeps : Keeps base names project) (plain : ∀ s ∈ segments, Url.PlainSegment s) :
    ∀ n ∈ Url.segmentText (Url.schemeKind base.scheme) project :: "_apis" :: "build" :: segments,
      '/' ∉ n.toList := by
  intro n member
  rcases List.mem_cons.mp member with rfl | member
  · exact keeps.segmentOf.no_slash
  rcases List.mem_cons.mp member with rfl | member
  · exact plainSegment_apis.no_slash
  rcases List.mem_cons.mp member with rfl | member
  · exact plainSegment_build.no_slash
  · exact (plain n member).no_slash

theorem Keeps.endpoint_injective {other : String} {segments' : List String} {url url' : Url}
    (keeps : Keeps base names project) (keeps' : Keeps base names other)
    (based : base.path = .segments names) (plain : ∀ s ∈ segments, Url.PlainSegment s)
    (plain' : ∀ s ∈ segments', Url.PlainSegment s)
    (built : c.endpoint base project segments = .ok url)
    (built' : c.endpoint base other segments' = .ok url') (same : url.text = url'.text) :
    project = other ∧ segments = segments' := by
  rw [keeps.endpoint_eq based plain] at built
  rw [keeps'.endpoint_eq based plain'] at built'
  cases built
  cases built'
  obtain ⟨segment, later⟩ := Url.segments_of_text keeps.segment_nonempty keeps'.segment_nonempty
    (keeps.solid plain) (keeps'.solid plain') same
  have stands := keeps'.segmentOf
  rw [← segment] at stands
  exact ⟨keeps.segmentOf.name_unique stands, (List.cons.inj (List.cons.inj later).2).2⟩

/-- The endpoint of a project. A name that is kept has a segment, and an endpoint, of its own; a name that
can be read from its endpoint is no dots and holds neither tabs nor line ends. Dots lead to the endpoint of
the base, and names that differ in tabs and line ends to the same one. -/
theorem endpoint_structure (c : Client σ) {base : Url} {names : List String}
    (based : base.path = .segments names) {project : String} (nonempty : project ≠ "")
    {segments : List String} (plain : ∀ s ∈ segments, Url.PlainSegment s) :
    ∃ url, c.endpoint base project segments = .ok url ∧
      (Keeps base names project →
        c.EndpointOf base names project segments url ∧
        ∀ other segments' url', Keeps base names other → (∀ s ∈ segments', Url.PlainSegment s) →
          c.endpoint base other segments' = .ok url' → url.text = url'.text →
          project = other ∧ segments = segments') ∧
      (c.EndpointOf base names project segments url →
        Url.Keepable project ∧ names ≠ ["", ""]) ∧
      (project = "." ∨ project = ".." →
        url.path = .segments (Url.rooted (Url.dropEmptyEnd names) ++ "_apis" :: "build" :: segments)) ∧
      ∀ other, project ≠ "." ∧ project ≠ ".." → other ≠ "." ∧ other ≠ ".." →
        Url.withoutLineEnds project.toList = Url.withoutLineEnds other.toList →
        c.endpoint base other segments = .ok url := by
  have built := @endpoint_eq σ c base names project segments based plain
  refine ⟨_, built, ?_, keepable_of_endpointOf based nonempty plain built, ?_, ?_⟩
  · intro keeps
    refine ⟨keeps.endpointOf based plain built, ?_⟩
    intro other segments' url' keeps' plain' built' same
    exact keeps.endpoint_injective keeps' based plain plain' built built' same
  · intro dots
    rw [Url.pushSegment_dots dots]
  · intro other one two same
    rw [Url.pushSegment_congr one two same]
    exact endpoint_eq c based plain

theorem plainSegment_number (n : Nat) : Url.PlainSegment (Number.text n) where
  nonempty := by
    intro empty
    apply Json.digits_ne_nil n
    rw [← String.toList_ofList (l := Number.digits n), ← Number.text, empty]
    rfl
  word c member := by
    rw [Number.text, String.toList_ofList] at member
    rw [Url.isWordChar, Json.digits_digits n c member]
    simp

def offline : Client Unit := ⟨{}, unreachable⟩

def defaultCollection : Url where
  scheme := "https"
  authority := some { host := .name "tfs.example.com" }
  path := .segments ["DefaultCollection", ""]

theorem endpoint_structure_slash :
    Url.parse "https://tfs.example.com/DefaultCollection/" = .ok defaultCollection ∧
      ∃ url, offline.endpoint defaultCollection "R/D 100%?" ["builds", Number.text 42, "artifacts"] =
          .ok url ∧
        offline.EndpointOf defaultCollection ["DefaultCollection", ""] "R/D 100%?"
          ["builds", Number.text 42, "artifacts"] url := by
  have plain : ∀ s ∈ ["builds", Number.text 42, "artifacts"], Url.PlainSegment s := by
    intro s member
    simp only [List.mem_cons, List.not_mem_nil, or_false] at member
    rcases member with rfl | rfl | rfl
    · exact Url.plainSegment_of_all (by decide) (by decide)
    · exact plainSegment_number 42
    · exact Url.plainSegment_of_all (by decide) (by decide)
  have based : defaultCollection.path = .segments ["DefaultCollection", ""] := rfl
  have keepable : Url.Keepable "R/D 100%?" :=
    ⟨by decide, by decide, Url.withoutLineEnds_eq_self_iff.mp (by decide)⟩
  have keeps : Keeps defaultCollection ["DefaultCollection", ""] "R/D 100%?" :=
    ⟨keepable, by decide, fun file => by cases file⟩
  obtain ⟨url, built, kept, -⟩ := endpoint_structure offline based keepable.nonempty plain
  exact ⟨by decide +kernel, url, built, (kept keeps).1⟩

/-- Three scopes, two of which are asked for at one endpoint and the third at that of the collection. -/
theorem endpoints_merged :
    ∃ base, Url.parse "http://tfs.example.com/tfs/Main" = .ok base ∧
      ArtifactSettings.subPathList ⟨"http://tfs.example.com/tfs/Main", "x\ty; xy; .", none⟩ =
        ["x\ty", "xy", "."] ∧
      offline.endpoint base "x\ty" ["definitions"] = offline.endpoint base "xy" ["definitions"] ∧
      ∃ url, offline.endpoint base "." ["definitions"] = .ok url ∧
        url.text = "http://tfs.example.com/tfs/Main/_apis/build/definitions?api-version=6.0" := by
  refine ⟨⟨"http", some { host := .name "tfs.example.com" }, .segments ["tfs", "Main"], none, none⟩,
    by decide +kernel, by decide +kernel, by decide +kernel, _, rfl, by decide +kernel⟩

end Web.Client

end DeployPlan
