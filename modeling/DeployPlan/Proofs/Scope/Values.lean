import DeployPlan.Proofs.Scope.Footprint

/-!
What is found after a resolution. Once the topology of an environment has been read, its variables have
their values, whatever becomes of the paths. One match is a text by itself, any other number of matches
is a list; which tags and types match is a question of their keys.
-/

namespace DeployPlan

namespace Variable

theorem ofMatches_eq_scalar_iff {ss : List String} {s : String} :
    ofMatches ss = .scalar s ↔ ss = [s] := by
  unfold ofMatches
  split <;> simp_all

theorem ofMatches_of_ne {ss : List String} (several : ∀ s, ss ≠ [s]) : ofMatches ss = .array ss := by
  unfold ofMatches
  split
  · exact absurd rfl (several _)
  · rfl

theorem exists_ofMatches_eq_scalar_iff {ss : List String} :
    (∃ s, ofMatches ss = .scalar s) ↔ ss.length = 1 := by
  simp only [ofMatches_eq_scalar_iff, List.length_eq_one_iff]

theorem ofMatches_of_length_ne {ss : List String} (several : ss.length ≠ 1) :
    ofMatches ss = .array ss := by
  apply ofMatches_of_ne
  rintro s rfl
  exact several rfl

theorem ofMatches_eq_array_iff {ss ts : List String} :
    ofMatches ss = .array ts ↔ ts = ss ∧ ∀ s, ss ≠ [s] := by
  constructor
  · intro same
    have several : ∀ s, ss ≠ [s] := fun s one => by
      rw [ofMatches_eq_scalar_iff.mpr one] at same
      cases same
    rw [ofMatches_of_ne several] at same
    cases same
    exact ⟨rfl, several⟩
  · rintro ⟨rfl, several⟩
    exact ofMatches_of_ne several

end Variable

namespace Scope

/- Keys. -/

/-- Surrounding blanks do not count, and a space is as good as an underscore. -/
def Alike (a b : String) : Prop :=
  List.Forall₂ (fun c d => c = d ∨ c = ' ' ∧ d = '_' ∨ c = '_' ∧ d = ' ')
    (Text.trim a).toList (Text.trim b).toList

instance (a b : String) : Decidable (Alike a b) :=
  inferInstanceAs (Decidable (List.Forall₂ _ _ _))

theorem alike_iff {a b : String} :
    Alike a b ↔ Text.replaceChar ' ' '_' (Text.trim a) = Text.replaceChar ' ' '_' (Text.trim b) := by
  have same : ∀ c d : Char, (c = d ∨ c = ' ' ∧ d = '_' ∨ c = '_' ∧ d = ' ') ↔
      (if c = ' ' then '_' else c) = if d = ' ' then '_' else d := by
    intro c d
    by_cases hc : c = ' ' <;> by_cases hd : d = ' ' <;> simp_all [eq_comm]
  unfold Alike Text.replaceChar
  rw [String.ofList_inj, ← List.forall₂_eq_eq_eq, List.forall₂_map_left_iff, List.forall₂_map_right_iff]
  simp only [same]

theorem isEmpty_trim_of_alike {a b : String} (alike : Alike a b) :
    (Text.trim a).isEmpty = (Text.trim b).isEmpty := by
  have length := List.Forall₂.length_eq alike
  rw [Bool.eq_iff_iff, String.isEmpty_iff, String.isEmpty_iff, ← String.toList_eq_nil_iff,
    ← String.toList_eq_nil_iff, ← List.length_eq_zero_iff, ← List.length_eq_zero_iff, length]

theorem keyPart?_eq_some_iff_alike {raw key : String} (given : keyPart? raw = some key)
    (other : String) : keyPart? other = some key ↔ Alike other raw := by
  simp only [keyPart?] at given ⊢
  split at given
  · cases given
  · rename_i solid
    obtain rfl := Option.some.inj given
    rw [alike_iff]
    constructor
    · intro same
      split at same
      · cases same
      · exact Option.some.inj same
    · intro same
      have empty := isEmpty_trim_of_alike (alike_iff.mpr same)
      simp [empty, solid, same]

/- Values. -/

variable {topology : TopologyStore} {paths : PathStore} {environment : Environment} {rows : Rows}

theorem Rows.mem_variables_iff {entry : String × Variable} :
    entry ∈ rows.variables environment ↔
      entry = ("EnvironmentName", .scalar environment.name) ∨ entry ∈ serverVariables rows.servers ∨
        entry ∈ databaseVariables rows.databases ∨
        entry ∈ permissionVariables rows.databases rows.grants ∨
        entry ∈ shortcutVariables environment rows.databases := by
  simp [Rows.variables, topologyVariables]

theorem exists_written_eq (paths : PathStore) (read : readRows topology environment = .ok rows) :
    ∃ facts : Facts, facts.toRows = rows ∧
      written topology paths environment = facts.assignments environment := by
  have assigned : ∀ fileShare? configFile? : Option String,
      (Facts.mk rows fileShare? configFile?).assignments environment =
        rows.variables environment ++ (pathVariables "FileSharePath" fileShare? ++
          pathVariables "ConfigFilePath" configFile?) := by
    intro fileShare? configFile?
    simp [Facts.assignments, Topic.all, Facts.variablesOf, Rows.variables, topologyVariables]
  unfold written
  rw [read]
  cases paths.fileShare environment with
  | error _ => exact ⟨⟨rows, none, none⟩, rfl, by rw [assigned]; rfl⟩
  | ok fileShare? =>
    cases paths.configFile environment with
    | error _ => exact ⟨⟨rows, fileShare?, none⟩, rfl, by rw [assigned]; rfl⟩
    | ok configFile? => exact ⟨⟨rows, fileShare?, configFile?⟩, rfl, by rw [assigned]⟩

theorem get?_resolve_of_mem (read : readRows topology environment = .ok rows) {name : String}
    {v : Variable} (member : (name, v) ∈ rows.variables environment) (s : Scope) :
    ((resolve topology paths environment).run s).state.get? name = some v := by
  obtain ⟨facts, rfl, wrote⟩ := exists_written_eq paths read
  have distinct := facts.nodup_names environment
  rw [state_resolve]
  rw [← wrote] at distinct
  apply get?_setAll_of_mem distinct
  unfold written
  rw [read]
  exact List.mem_append_left _ member

theorem get?_resolve_of_not_sets (read : readRows topology environment = .ok rows) (key : Key)
    (unset : ∀ facts : Facts, facts.toRows = rows → ¬ facts.Sets key) (s : Scope) :
    ((resolve topology paths environment).run s).state.get? key.text = s.get? key.text := by
  obtain ⟨facts, known, wrote⟩ := exists_written_eq paths read
  rw [state_resolve, wrote]
  apply get?_setAll_of_not_mem
  rw [facts.mem_names_iff]
  rintro ⟨k, due, same⟩
  cases Key.text_injective same
  exact unset facts known due

end Scope

end DeployPlan
