import DeployPlan.Proofs.Build.Dialogue
import DeployPlan.Proofs.Build.Labels
import DeployPlan.Proofs.FirstOccurrence

/-!
The scopes of a build system. They are declared by the pieces of a text between semicolons. Each piece
declares a name, with blanks around it or without, and a piece that is blank or repeats a name declares
nothing more.
-/

namespace DeployPlan

variable {σ : Type}

def Padded (name piece : String) : Prop :=
  ∃ before after, Text.blank before = true ∧ Text.blank after = true ∧ piece = before ++ name ++ after

/-- Behind pieces that have declared the names `known`, further pieces declare further names. -/
inductive Declares : List String → List String → List String → Prop
  | done (known : List String) : Declares known [] []
  | blank {known pieces names : List String} {piece : String} :
      Text.blank piece = true → Declares known pieces names → Declares known (piece :: pieces) names
  | repeated {known pieces names : List String} {name piece : String} :
      name ∈ known → Padded name piece → Declares known pieces names →
        Declares known (piece :: pieces) names
  | next {known pieces names : List String} {name piece : String} :
      Padded name piece → Declares (known ++ [name]) pieces names →
        Declares known (piece :: pieces) (name :: names)

def trimmedNames (pieces : List String) : List String :=
  (pieces.map Text.trim).filter (!·.isEmpty)

theorem mem_trimmedNames {pieces : List String} {name : String} :
    name ∈ trimmedNames pieces ↔ name ≠ "" ∧ ∃ piece ∈ pieces, Text.trim piece = name := by
  simp [trimmedNames, and_comm]

theorem trim_eq_empty_iff {piece : String} : Text.trim piece = "" ↔ Text.blank piece = true := by
  rw [Text.trim, ← trimChars_isEmpty, List.isEmpty_iff, ← String.toList_inj, String.toList_ofList]
  rfl

theorem trimmedNames_cons_blank {piece : String} (blank : Text.blank piece = true) (pieces : List String) :
    trimmedNames (piece :: pieces) = trimmedNames pieces := by
  simp [trimmedNames, trim_eq_empty_iff.mpr blank]

theorem trim_of_padded {name piece : String} (trimmed : Text.Trimmed name.toList)
    (padded : Padded name piece) : Text.trim piece = name := by
  obtain ⟨before, after, blank_before, blank_after, rfl⟩ := padded
  rw [Text.blank, List.all_eq_true] at blank_before blank_after
  rw [Text.trim, String.toList_append, String.toList_append,
    Text.trimChars_append_blank _ blank_after, Text.trimChars_blank_append blank_before,
    Text.trimChars_eq_self_iff.mpr trimmed, String.ofList_toList]

theorem trimmedNames_cons_padded {name piece : String} (plain : PlainName name)
    (padded : Padded name piece) (pieces : List String) :
    trimmedNames (piece :: pieces) = name :: trimmedNames pieces := by
  simp [trimmedNames, trim_of_padded plain.trimmed padded, plain.nonempty]

theorem no_semicolon_of_blank {piece : String} (blank : Text.blank piece = true) : ';' ∉ piece.toList := by
  rw [Text.blank, List.all_eq_true] at blank
  intro inside
  exact absurd (blank ';' inside) (by decide)

theorem no_semicolon_of_padded {name piece : String} (plain : PlainName name)
    (padded : Padded name piece) : ';' ∉ piece.toList := by
  obtain ⟨before, after, blank_before, blank_after, rfl⟩ := padded
  simp [no_semicolon_of_blank blank_before, no_semicolon_of_blank blank_after, plain.single]

theorem padded_self (name : String) : Padded name name :=
  ⟨"", "", rfl, rfl, by simp⟩

namespace Declares

variable {known pieces names : List String}

theorem eraseDups_trimmedNames (declares : Declares known pieces names)
    (plain : ∀ name ∈ known ++ names, PlainName name) (distinct : (known ++ names).Nodup) :
    (known ++ trimmedNames pieces).eraseDups = known ++ names := by
  -- What is known already grows with every name, and is never repeated.
  induction declares with
  | done known => simpa [trimmedNames] using eraseDups_of_nodup distinct
  | blank blank _ ih =>
    rw [trimmedNames_cons_blank blank]
    exact ih plain distinct
  | repeated member padded _ ih =>
    rw [trimmedNames_cons_padded (plain _ (List.mem_append_left _ member)) padded,
      eraseDups_append_cons_of_mem member]
    exact ih plain distinct
  | next padded _ ih =>
    rw [trimmedNames_cons_padded (plain _ (by simp)) padded, List.append_cons _ _ (trimmedNames _)]
    rw [List.append_cons] at plain distinct
    rw [ih plain distinct, List.append_assoc, List.singleton_append]

theorem no_semicolon (declares : Declares known pieces names)
    (plain : ∀ name ∈ known ++ names, PlainName name) : ∀ piece ∈ pieces, ';' ∉ piece.toList := by
  induction declares with
  | done known => simp
  | blank blank _ ih => exact List.forall_mem_cons.mpr ⟨no_semicolon_of_blank blank, ih plain⟩
  | repeated member padded _ ih =>
    have single := no_semicolon_of_padded (plain _ (List.mem_append_left _ member)) padded
    exact List.forall_mem_cons.mpr ⟨single, ih plain⟩
  | next padded _ ih =>
    have single := no_semicolon_of_padded (plain _ (by simp)) padded
    rw [List.append_cons] at plain
    exact List.forall_mem_cons.mpr ⟨single, ih plain⟩

theorem self (known names : List String) : Declares known names names := by
  induction names generalizing known with
  | nil => exact .done known
  | cons name names ih => exact .next (padded_self name) (ih _)

end Declares

/-! Texts of pieces -/

theorem join_pieces (s : String) : Text.join ";" (Text.pieces ';' s) = s := by
  have semicolon : ";".toList = [';'] := rfl
  rw [Text.join, Text.pieces, List.map_map, semicolon]
  simp [Function.comp_def, Text.joinChars_piecesBy]

theorem pieces_join {pieces : List String} (nonempty : pieces ≠ [])
    (single : ∀ piece ∈ pieces, ';' ∉ piece.toList) :
    Text.pieces ';' (Text.join ";" pieces) = pieces := by
  have semicolon : ";".toList = [';'] := rfl
  have cut : Text.piecesBy (· == ';') (Text.joinChars [';'] (pieces.map String.toList)) =
      pieces.map String.toList :=
    Text.piecesBy_joinChars (by simpa using nonempty) (by simpa using single)
  rw [Text.pieces, Text.join, String.toList_ofList, semicolon, cut]
  simp [Function.comp_def]

theorem pieces_ne_nil (s : String) : Text.pieces ';' s ≠ [] := by
  simp [Text.pieces, Text.piecesBy_ne_nil]

theorem no_semicolon_of_mem_pieces {s piece : String} (member : piece ∈ Text.pieces ';' s) :
    ';' ∉ piece.toList := by
  obtain ⟨cs, cut, rfl⟩ := List.mem_map.mp member
  rw [String.toList_ofList]
  exact Text.not_mem_of_mem_piecesBy cut

namespace ArtifactSettings

variable (a : ArtifactSettings)

theorem subPathList_eq : a.subPathList = (trimmedNames (Text.pieces ';' a.subPaths)).eraseDups := rfl

theorem subPathList_join {pieces : List String} (single : ∀ piece ∈ pieces, ';' ∉ piece.toList) :
    subPathList { a with subPaths := Text.join ";" pieces } = (trimmedNames pieces).eraseDups := by
  rw [subPathList_eq]
  by_cases none : pieces = []
  · rw [none]
    rfl
  · rw [pieces_join none single]

theorem subPathList_of_declares {pieces names : List String} (distinct : names.Nodup)
    (plain : ∀ name ∈ names, PlainName name) (declares : Declares [] pieces names) :
    subPathList { a with subPaths := Text.join ";" pieces } = names := by
  rw [subPathList_join a (declares.no_semicolon plain)]
  exact declares.eraseDups_trimmedNames plain distinct

theorem mem_subPathList {name : String} :
    name ∈ a.subPathList ↔
      name ≠ "" ∧ ∃ piece ∈ Text.pieces ';' a.subPaths, Text.trim piece = name := by
  rw [subPathList_eq, List.mem_eraseDups, mem_trimmedNames]

theorem plainName_of_mem_subPathList {name : String} (member : name ∈ a.subPathList) :
    PlainName name := by
  obtain ⟨nonempty, piece, cut, rfl⟩ := a.mem_subPathList.mp member
  refine plainName_trim ?_ (no_semicolon_of_mem_pieces cut)
  simpa using mt trim_eq_empty_iff.mpr nonempty

theorem idxOf_subPathList_lt_iff {x y : String} (hx : x ∈ a.subPathList) (hy : y ∈ a.subPathList) :
    a.subPathList.idxOf x < a.subPathList.idxOf y ↔
      ((Text.pieces ';' a.subPaths).map Text.trim).idxOf x <
        ((Text.pieces ';' a.subPaths).map Text.trim).idxOf y := by
  have solid : ∀ {name}, name ∈ a.subPathList → (!name.isEmpty) = true := by
    intro name member
    simpa using (a.mem_subPathList.mp member).1
  rw [subPathList_eq, idxOf_eraseDups_lt_iff]
  exact idxOf_filter_lt_iff (fun name : String => !name.isEmpty) (solid hx) (solid hy) _

theorem ne_nil_of_buildSystem (remote : a.source = .buildSystem) : a.subPathList ≠ [] := by
  intro none
  rw [source, none] at remote
  simp only [List.isEmpty_nil, Bool.not_true, Bool.and_false, Bool.false_eq_true, if_false] at remote
  split at remote <;> cases remote

end ArtifactSettings

/-! What is asked about scopes -/

open BuildService (Question)

def BuildService.Question.scopes : Question → List String
  | .definitions _ scopes _ => scopes
  | .builds _ _ => []
  | .artifacts _ _ _ => []

def Resolver.questions (service : BuildService σ) (a : ArtifactSettings) (ref : BuildReference) (s : σ) :
    List Question :=
  (((⟨service.logged, none⟩ : Resolver (σ × List Question)).resolve a ref).run (s, [])).state.2

theorem Dialogue.scopes {service : BuildService σ} {a : ArtifactSettings} {ref : BuildReference}
    {s t : σ} {asked : List Question} {r : Except Failure BuildDetail}
    (dialogue : Dialogue service a ref s asked r t) :
    asked.flatMap Question.scopes = [] ∨ asked.flatMap Question.scopes = a.subPathList := by
  cases dialogue with
  | refused refused => exact Or.inl rfl
  | noDefinition i first => simp [Question.scopes]
  | noBuild i first second => simp [Question.scopes]
  | noArtifact i first second third => simp [Question.scopes]
  | resolved f => simp [Question.scopes]

theorem Resolver.scopes_questions (service : BuildService σ) (a : ArtifactSettings) (ref : BuildReference)
    (s : σ) : (questions service a ref s).flatMap Question.scopes = [] ∨
      (questions service a ref s).flatMap Question.scopes = a.subPathList := by
  cases kind : a.source with
  | buildSystem =>
    obtain ⟨asked, r, t, dialogue⟩ := Dialogue.exists_dialogue service a ref s
    obtain ⟨-, noted⟩ := resolve_of_dialogue kind (dialogue.logged [])
    rw [questions, noted, List.nil_append]
    exact dialogue.scopes
  | fileShare =>
    left
    unfold questions resolve resolveUntil
    rw [kind]
    rfl
  | folder =>
    left
    unfold questions resolve resolveUntil
    rw [kind]
    rfl

namespace ArtifactSettings

/-- The scopes are the names that the pieces between semicolons bear, each once and in the order of their
first occurrence. Names that are declared in any spelling are read back, and no scope is asked for
twice. -/
theorem subPathList_declared (a : ArtifactSettings) :
    (∃ pieces, a.subPaths = Text.join ";" pieces ∧ pieces ≠ [] ∧
      (∀ piece ∈ pieces, ';' ∉ piece.toList) ∧
      (∀ name, name ∈ a.subPathList ↔ name ≠ "" ∧ ∃ piece ∈ pieces, Text.trim piece = name) ∧
      ∀ x ∈ a.subPathList, ∀ y ∈ a.subPathList,
        (a.subPathList.idxOf x < a.subPathList.idxOf y ↔
          (pieces.map Text.trim).idxOf x < (pieces.map Text.trim).idxOf y)) ∧
    a.subPathList.Nodup ∧
    (∀ names pieces, names.Nodup → (∀ name ∈ names, PlainName name) → Declares [] pieces names →
      subPathList { a with subPaths := Text.join ";" pieces } = names) ∧
    subPathList { a with subPaths := Text.join ";" a.subPathList } = a.subPathList ∧
    (∀ (service : BuildService σ) (ref : BuildReference) (s : σ),
      ((Resolver.questions service a ref s).flatMap Question.scopes).Nodup) ∧
    (a.source = .buildSystem → a.subPathList ≠ []) := by
  have distinct : a.subPathList.Nodup := nodup_eraseDups _
  refine ⟨⟨Text.pieces ';' a.subPaths, (join_pieces _).symm, pieces_ne_nil _, ?_, ?_, ?_⟩, distinct,
    ?_, ?_, ?_, a.ne_nil_of_buildSystem⟩
  · exact fun piece => no_semicolon_of_mem_pieces
  · exact fun name => a.mem_subPathList
  · exact fun x hx y hy => a.idxOf_subPathList_lt_iff hx hy
  · exact fun names pieces distinct plain declares => a.subPathList_of_declares distinct plain declares
  · apply a.subPathList_of_declares distinct
    · exact fun name => a.plainName_of_mem_subPathList
    · exact .self [] a.subPathList
  · intro service ref s
    rcases Resolver.scopes_questions service a ref s with none | once
    · rw [none]
      exact List.nodup_nil
    · rw [once]
      exact distinct

theorem subPathList_declared_spellings :
    Declares [] [" A", " B ", "", "A "] ["A", "B"] ∧
      subPathList ⟨"https://tfs.example.com/Main", " A; B ;;A ", none⟩ = ["A", "B"] := by
  have again : Padded "A" "A " := ⟨"", " ", by decide⟩
  have declares : Declares [] [" A", " B ", "", "A "] ["A", "B"] :=
    .next ⟨" ", "", by decide⟩ <| .next ⟨" ", " ", by decide⟩ <| .blank (by decide) <|
      .repeated (by decide) again (.done _)
  obtain ⟨-, -, spelled, -, -, -⟩ :=
    @subPathList_declared Unit ⟨"https://tfs.example.com/Main", "", none⟩
  have joined : Text.join ";" [" A", " B ", "", "A "] = " A; B ;;A " := by decide +kernel
  have names := spelled ["A", "B"] _ (by decide) (by decide +kernel) declares
  rw [joined] at names
  exact ⟨declares, names⟩

end ArtifactSettings

end DeployPlan
