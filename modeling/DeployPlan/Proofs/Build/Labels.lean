import DeployPlan.Build.Scripted
import DeployPlan.Proofs.Build.Consultation
import DeployPlan.Proofs.Text.Blank
import DeployPlan.Proofs.Text.Pieces

/-!
Labels. A label is a project and a definition with one semicolon between them. The label that is listed
for a definition is read back as its two names when these can stand beside a semicolon as they are, and
then it leads to that definition unless another one bears the same names.
-/

namespace DeployPlan

variable {σ : Type}

/-- The label's only semicolon has something on each of its sides; without the blanks around them these
are the two names. -/
inductive LabelNames (label : String) : String → String → Prop
  | sides {before after : String} (split : label = before ++ ";" ++ after)
      (only : ';' ∉ before.toList ∧ ';' ∉ after.toList) (project : Text.blank before = false)
      (definition : Text.blank after = false) :
      LabelNames label (Text.trim before) (Text.trim after)

theorem trimChars_isEmpty (s : String) : (Text.trimChars s.toList).isEmpty = Text.blank s := by
  rw [Bool.eq_iff_iff, List.isEmpty_iff, Text.trimChars_eq_nil_iff, Text.blank, List.all_eq_true]

theorem trimChars_contains_semicolon (s : String) :
    (Text.trimChars s.toList).contains ';' = decide (';' ∈ s.toList) := by
  rw [Bool.eq_iff_iff, List.contains_iff_mem, decide_eq_true_eq,
    Text.mem_trimChars_iff (by decide)]

theorem parseLabel_sides {before : String} (first : ';' ∉ before.toList) (after : String) :
    parseLabel (before ++ ";" ++ after) =
      if Text.blank before || Text.blank after || decide (';' ∈ after.toList) then
        .error (.invalid (.label (before ++ ";" ++ after)))
      else .ok (Text.trim before, Text.trim after) := by
  have split : (before ++ ";" ++ after).toList = before.toList ++ ';' :: after.toList := by simp
  rw [parseLabel, split, Text.cutAt?_eq_some_iff.mpr ⟨rfl, first⟩]
  dsimp only
  rw [trimChars_isEmpty, trimChars_isEmpty, trimChars_contains_semicolon]
  rfl

theorem semicolon_absent_or_first (label : String) :
    ';' ∉ label.toList ∨
      ∃ before after : String, label = before ++ ";" ++ after ∧ ';' ∉ before.toList := by
  by_cases present : ';' ∈ label.toList
  · right
    obtain ⟨before, after, split, first⟩ := List.eq_append_cons_of_mem present
    refine ⟨String.ofList before, String.ofList after, ?_, by simpa using first⟩
    apply String.toList_injective
    simpa using split
  · exact Or.inl present

theorem parseLabel_ok_iff {label project name : String} :
    parseLabel label = .ok (project, name) ↔ LabelNames label project name := by
  constructor
  · intro read
    rcases semicolon_absent_or_first label with absent | ⟨before, after, rfl, first⟩
    · rw [parseLabel, Text.cutAt?_of_not_mem absent] at read
      cases read
    · rw [parseLabel_sides first] at read
      split at read
      · cases read
      · rename_i fit
        cases read
        simp only [Bool.or_eq_true, not_or, Bool.not_eq_true, decide_eq_false_iff_not] at fit
        obtain ⟨⟨project, definition⟩, last⟩ := fit
        exact .sides rfl ⟨first, last⟩ project definition
  · rintro ⟨rfl, ⟨first, last⟩, project, definition⟩
    rw [parseLabel_sides first, project, definition, decide_eq_false last]
    rfl

theorem parseLabel_refuses {label : String} (unread : ¬∃ project name, LabelNames label project name) :
    parseLabel label = .error (.invalid (.label label)) := by
  rcases semicolon_absent_or_first label with absent | ⟨before, after, rfl, first⟩
  · rw [parseLabel, Text.cutAt?_of_not_mem absent]
  · have read := parseLabel_sides first after
    split at read
    · exact read
    · exact absurd ⟨_, _, parseLabel_ok_iff.mp read⟩ unread

theorem label_message (label : String) :
    (Failure.invalid (.label label)).message =
      "validation error: build label '" ++ label ++ "' must look like '<project>; <definition>'" := by
  have opening : "validation error: " ++ "build label '" = "validation error: build label '" := by
    decide +kernel
  unfold Failure.message Flaw.message
  dsimp only
  rw [← String.append_assoc, ← String.append_assoc, opening]

/-! Listed labels -/

/-- Fit to stand beside a semicolon as it is. -/
structure PlainName (s : String) : Prop where
  nonempty : s ≠ ""
  trimmed : Text.Trimmed s.toList
  single : ';' ∉ s.toList

theorem plainName_iff {s : String} :
    PlainName s ↔ s ≠ "" ∧ Text.trimChars s.toList = s.toList ∧ ';' ∉ s.toList := by
  rw [Text.trimChars_eq_self_iff]
  constructor
  · rintro ⟨nonempty, trimmed, single⟩
    exact ⟨nonempty, trimmed, single⟩
  · rintro ⟨nonempty, trimmed, single⟩
    exact ⟨nonempty, trimmed, single⟩

instance (s : String) : Decidable (PlainName s) :=
  decidable_of_iff _ plainName_iff.symm

theorem PlainName.trim_eq {s : String} (plain : PlainName s) : Text.trim s = s := by
  rw [Text.trim, Text.trimChars_eq_self_iff.mpr plain.trimmed, String.ofList_toList]

theorem PlainName.visible {s : String} (plain : PlainName s) : Text.blank s = false := by
  rw [← trimChars_isEmpty, Text.trimChars_eq_self_iff.mpr plain.trimmed, List.isEmpty_eq_false_iff]
  exact fun empty => plain.nonempty (String.toList_injective empty)

theorem plainName_trim {s : String} (visible : Text.blank s = false) (single : ';' ∉ s.toList) :
    PlainName (Text.trim s) := by
  have trimmed : (Text.trim s).toList = Text.trimChars s.toList := String.toList_ofList
  constructor
  · intro empty
    rw [← trimChars_isEmpty, ← trimmed, empty] at visible
    cases visible
  · rw [trimmed]
    exact Text.trimmed_trimChars s.toList
  · rw [trimmed, Text.mem_trimChars_iff (by decide)]
    exact single

theorem LabelNames.plain {label project name : String} (names : LabelNames label project name) :
    PlainName project ∧ PlainName name := by
  obtain ⟨-, ⟨first, last⟩, project, definition⟩ := names
  exact ⟨plainName_trim project first, plainName_trim definition last⟩

def BuildDefinition.Plain (d : BuildDefinition) : Prop :=
  PlainName d.project ∧ PlainName d.name

instance (d : BuildDefinition) : Decidable d.Plain :=
  inferInstanceAs (Decidable (PlainName d.project ∧ PlainName d.name))

theorem BuildDefinition.Plain.labelNames {d : BuildDefinition} (plain : d.Plain) :
    LabelNames d.label d.project d.name := by
  obtain ⟨project, name⟩ := plain
  have split : d.label = d.project ++ ";" ++ (" " ++ d.name) := by
    apply String.toList_injective
    simp [label]
  have spaced : (" " ++ d.name).toList = ' ' :: d.name.toList := by simp
  have trimmed : Text.trim (" " ++ d.name) = d.name := by
    rw [Text.trim, spaced, Text.trimChars_blank_cons (by decide), ← Text.trim, name.trim_eq]
  have visible : Text.blank (" " ++ d.name) = false := by
    rw [Text.blank, spaced, List.all_cons, ← Text.blank, name.visible, Bool.and_false]
  have single : ';' ∉ (" " ++ d.name).toList := by
    rw [spaced]
    simpa using name.single
  -- the blank behind the semicolon is trimmed from the definition's side
  have names := LabelNames.sides split ⟨project.single, single⟩ project.visible visible
  rw [project.trim_eq, trimmed] at names
  exact names

theorem parseLabel_label_iff {d : BuildDefinition} :
    parseLabel d.label = .ok (d.project, d.name) ↔ d.Plain := by
  rw [parseLabel_ok_iff]
  constructor
  · exact LabelNames.plain
  · exact BuildDefinition.Plain.labelNames

/-! Searches by label -/

theorem Act.result_ofExcept_bind {α β : Type} {known : Except Failure α} {a : α}
    (here : known = .ok a) (f : α → Act σ β) (s : σ) :
    ((Act.ofExcept known >>= f).run s).result = ((f a).run s).result := by
  rw [here]
  rfl

namespace Resolver

/-- Begun in this state, the search for the visible definitions ends in time, with this list. -/
def Lists (r : Resolver σ) (w : Patience) (url : Url) (a : ArtifactSettings) (s : Clocked σ)
    (definitions : List BuildDefinition) : Prop :=
  a.address = .ok url ∧ ∃ filter, a.filter = .ok filter ∧
    ((w.await (r.service.definitions url a.subPathList filter)).run s).result = .ok definitions

variable {r : Resolver σ} {url : Url} {a : ArtifactSettings} {definitions : List BuildDefinition}

theorem labels_of_lists {s : σ} (lists : r.Lists (r.patience none) url a ⟨s, ⟨0⟩⟩ definitions) :
    ((r.labels a).run s).result = .ok (definitions.map (·.label)) := by
  obtain ⟨addressed, filter, filtered, listed⟩ := lists
  have waited : ((((r.patience none).await
      (r.service.definitions url a.subPathList filter)).timed).run s).result = .ok definitions :=
    listed
  unfold labels
  rw [Act.result_ofExcept_bind addressed, Act.result_ofExcept_bind filtered, Act.result_bind, waited]
  rfl

theorem findDefinition_of_lists {w : Patience} {s : Clocked σ} {label project name : String}
    (lists : r.Lists w url a s definitions) (named : parseLabel label = .ok (project, name)) :
    ((r.findDefinition w url a label).run s).result =
      selectDefinition label project name definitions := by
  obtain ⟨-, filter, filtered, listed⟩ := lists
  unfold findDefinition
  rw [Act.result_ofExcept_bind named, Act.result_ofExcept_bind filtered, Act.result_bind, listed]
  exact Act.result_ofExcept _ _

theorem selectDefinition_own {d : BuildDefinition} (member : d ∈ definitions) :
    selectDefinition d.label d.project d.name definitions =
      if (definitionsNamed d.project d.name definitions).length = 1 then .ok d
      else .error (.ambiguousDefinition d.label
        (definitionsNamed d.project d.name definitions).length) := by
  have named : d ∈ definitionsNamed d.project d.name definitions := by
    simp [definitionsNamed, member]
  rw [← definitionChoice_iff]
  split
  · rename_i one
    obtain ⟨e, only⟩ := List.length_eq_one_iff.mp one
    rw [only, List.mem_singleton] at named
    cases named
    exact .one only
  · rename_i others
    have some := List.length_pos_of_mem named
    exact .several (by omega)

/-- The grammar of labels, and where the labels that are listed lead. -/
theorem label_grammar :
    (∀ label project name : String,
      parseLabel label = .ok (project, name) ↔ LabelNames label project name) ∧
    (∀ label : String, (¬∃ project name, LabelNames label project name) →
      parseLabel label = .error (.invalid (.label label)) ∧
      (Failure.invalid (.label label)).message =
        "validation error: build label '" ++ label ++
          "' must look like '<project>; <definition>'") ∧
    (∀ d : BuildDefinition, parseLabel d.label = .ok (d.project, d.name) ↔ d.Plain) ∧
    ∀ (r : Resolver σ) (url : Url) (a : ArtifactSettings) (definitions : List BuildDefinition),
      (∀ d ∈ definitions, d.Plain) →
      (∀ s, r.Lists (r.patience none) url a ⟨s, ⟨0⟩⟩ definitions →
        ((r.labels a).run s).result = .ok (definitions.map (·.label))) ∧
      ∀ w s, r.Lists w url a s definitions → ∀ d ∈ definitions,
        ((r.findDefinition w url a d.label).run s).result =
          if (definitionsNamed d.project d.name definitions).length = 1 then .ok d
          else .error (.ambiguousDefinition d.label
            (definitionsNamed d.project d.name definitions).length) := by
  refine ⟨fun label project name => parseLabel_ok_iff, ?_, fun d => parseLabel_label_iff, ?_⟩
  · intro label unread
    exact ⟨parseLabel_refuses unread, label_message label⟩
  · intro r url a definitions plain
    refine ⟨fun s => labels_of_lists, ?_⟩
    intro w s lists d member
    rw [findDefinition_of_lists lists (parseLabel_label_iff.mpr (plain d member))]
    exact selectDefinition_own member

def nightly : ScriptedBuilds where
  script :=
    { definitions := [⟨1, "CI", "Payments"⟩, ⟨2, "Nightly", "Payments"⟩, ⟨3, "Nightly", "Payments"⟩] }

theorem label_grammar_nightly :
    ∃ url, mainCollection.address = .ok url ∧
      ((labels ⟨ScriptedBuilds.service, none⟩ mainCollection).run nightly).result =
        .ok ["Payments; CI", "Payments; Nightly", "Payments; Nightly"] ∧
      ((findDefinition ⟨ScriptedBuilds.service, none⟩ ⟨none, none⟩ url mainCollection
        "Payments; CI").run ⟨nightly, ⟨0⟩⟩).result = .ok ⟨1, "CI", "Payments"⟩ ∧
      ((findDefinition ⟨ScriptedBuilds.service, none⟩ ⟨none, none⟩ url mainCollection
        "Payments; Nightly").run ⟨nightly, ⟨0⟩⟩).result =
          .error (.ambiguousDefinition "Payments; Nightly" 2) := by
  obtain ⟨url, addressed⟩ | ⟨flaw, bad⟩ := address_ok_or_invalid mainCollection
  · let r : Resolver ScriptedBuilds := ⟨ScriptedBuilds.service, none⟩
    let listed : List BuildDefinition :=
      [⟨1, "CI", "Payments"⟩, ⟨2, "Nightly", "Payments"⟩, ⟨3, "Nightly", "Payments"⟩]
    have plain : ∀ d ∈ listed, d.Plain := by decide +kernel
    have lists : r.Lists ⟨none, none⟩ url mainCollection ⟨nightly, ⟨0⟩⟩ listed := by
      refine ⟨addressed, none, rfl, ?_⟩
      change Except.ok (nightly.script.definitions.filter fun d =>
        mainCollection.subPathList.contains d.project && true) = .ok listed
      decide +kernel
    obtain ⟨-, -, -, searches⟩ := @label_grammar ScriptedBuilds
    obtain ⟨labels, finds⟩ := searches r url mainCollection listed plain
    have first := finds ⟨none, none⟩ _ lists ⟨1, "CI", "Payments"⟩ (by simp [listed])
    have second := finds ⟨none, none⟩ _ lists ⟨2, "Nightly", "Payments"⟩ (by simp [listed])
    exact ⟨url, addressed, labels nightly lists, first, second⟩
  · have read : (mainCollection.address.toOption.isSome) = true := by decide +kernel
    rw [bad] at read
    cases read

end Resolver

end DeployPlan
