import Mathlib.Algebra.Group.Nat.Defs
import DeployPlan.Proofs.Document.Settings
import DeployPlan.Proofs.Toml.Bounds
import DeployPlan.Proofs.Toml.Lines
import DeployPlan.Settings.File

/-!
Settings in a configuration file.
-/

namespace DeployPlan.Settings

open Toml (Adds Bare Line)

variable {s : Settings}

def numberLine (name : String) (n : Nat) : Line :=
  ⟨name, Number.digits n, .integer n⟩

def textLine (name text : String) : Line :=
  ⟨name, Toml.writeText text.toList, .text text⟩

def buildLines (b : BuildSystemSettings) : List Line :=
  [numberLine "timeout_secs" b.timeoutSeconds.toNat, textLine "api_version" b.apiVersion,
    textLine "user_agent" b.userAgent] ++
  (match b.token with
    | none => []
    | some t => [textLine "token" t])

def planningLines (p : PlanningSettings) : List Line :=
  [numberLine "max_tree_depth" p.maxTreeDepth.toNat]

def Writable (s : Settings) : Prop :=
  s.buildSystem.timeoutSeconds.toNat ≤ Toml.integerLimit ∧
    s.planning.maxTreeDepth.toNat ≤ Toml.integerLimit

def tomlChars (s : Settings) : List Char :=
  Toml.headerLine "build_system" ++ ((buildLines s.buildSystem).flatMap Line.chars ++
    '\n' :: (Toml.headerLine "planning" ++ ((planningLines s.planning).flatMap Line.chars ++ [])))

theorem toml?_writable (writable : s.Writable) : s.toml? = some (String.ofList s.tomlChars) := by
  rw [Writable] at writable
  cases token : s.buildSystem.token with
  | none =>
    simp [toml?, writable, token, tomlChars, buildLines, planningLines, Line.chars, numberLine,
      textLine]
  | some t =>
    simp [toml?, writable, token, tomlChars, buildLines, planningLines, Line.chars, numberLine,
      textLine]

theorem toml?_eq_none_iff : s.toml? = none ↔ ¬ s.Writable := by
  rw [toml?]
  split
  · rename_i writable
    exact iff_of_false (by simp) (not_not_intro writable)
  · rename_i large
    exact iff_of_true rfl large

/- Reading what was written. -/

theorem legal_numberLine {name : String} (bare : Bare name) {n : Nat} (small : n ≤ Toml.integerLimit) :
    (numberLine name n).Legal :=
  ⟨bare, Toml.reads_digits small⟩

theorem legal_textLine {name : String} (bare : Bare name) (text : String) :
    (textLine name text).Legal :=
  ⟨bare, Toml.reads_text text⟩

theorem legal_buildLines (writable : s.Writable) : ∀ l ∈ buildLines s.buildSystem, l.Legal := by
  have timeout : (numberLine "timeout_secs" s.buildSystem.timeoutSeconds.toNat).Legal :=
    legal_numberLine (by decide) writable.1
  have version : (textLine "api_version" s.buildSystem.apiVersion).Legal :=
    legal_textLine (by decide) _
  have agent : (textLine "user_agent" s.buildSystem.userAgent).Legal :=
    legal_textLine (by decide) _
  cases token : s.buildSystem.token with
  | none => simp [buildLines, token, timeout, version, agent]
  | some t =>
    have given : (textLine "token" t).Legal := legal_textLine (by decide) t
    simp [buildLines, token, timeout, version, agent, given]

theorem legal_planningLines (writable : s.Writable) :
    ∀ l ∈ planningLines s.planning, l.Legal := by
  have depth : (numberLine "max_tree_depth" s.planning.maxTreeDepth.toNat).Legal :=
    legal_numberLine (by decide) writable.2
  simp [planningLines, depth]

theorem names_buildLines (b : BuildSystemSettings) :
    ((buildLines b).map Line.name).Nodup := by
  cases token : b.token with
  | none => simp [buildLines, token, numberLine, textLine]
  | some t => simp [buildLines, token, numberLine, textLine]

theorem entry_numberLine (name : String) (n : Nat) :
    (numberLine name n).entry = (name, (Json.Value.nat n).node) := by
  have same : Json.Value.int n = Json.Value.nat n := by
    simp [Json.Value.int, Json.Value.nat]
  rw [Line.entry, numberLine, Toml.Tree.node, same]

theorem entry_textLine (name text : String) :
    (textLine name text).entry = (name, (Json.Value.text text).node) := by
  rw [Line.entry, textLine, Toml.Tree.node]
  rfl

theorem object_buildLines (b : BuildSystemSettings) :
    Toml.object ((buildLines b).map Line.entry) = b.json.node := by
  cases token : b.token with
  | none =>
    simp only [buildLines, token, BuildSystemSettings.json, List.map_append, List.map_cons,
      List.map_nil, entry_numberLine, entry_textLine]
    rfl
  | some t =>
    simp only [buildLines, token, BuildSystemSettings.json, List.map_append, List.map_cons,
      List.map_nil, entry_numberLine, entry_textLine]
    rfl

theorem object_planningLines (p : PlanningSettings) :
    Toml.object ((planningLines p).map Line.entry) = p.json.node := by
  simp only [planningLines, List.map_cons, List.map_nil, entry_numberLine]
  rfl

theorem read_tomlChars (writable : s.Writable) :
    ∃ root, Toml.read s.tomlChars = .ok root ∧ (Toml.Tree.table .header root).node = s.json.node := by
  obtain ⟨d, first, build⟩ := @Toml.adds_section "build_system" {} (buildLines s.buildSystem)
    (by decide) (by simp [Toml.entries]) (legal_buildLines writable)
    (names_buildLines s.buildSystem)
    ('\n' :: (Toml.headerLine "planning" ++ ((planningLines s.planning).flatMap Line.chars ++ [])))
  obtain ⟨e, second, whole⟩ := @Toml.adds_section "planning" d (planningLines s.planning)
    (by decide) (by rw [build]; simp [Toml.entries]) (legal_planningLines writable)
    (by simp [planningLines]) []
  have adds : Adds s.tomlChars [] {} e := first.trans ((Toml.adds_blank _ d).trans second)
  refine ⟨e.root, adds.read rfl, ?_⟩
  rw [Toml.node_table, whole, build, object_buildLines, object_planningLines]
  rfl

theorem decode_written {text : String} (written : s.toml? = some text) :
    Toml.decode decoder text = .ok s := by
  by_cases writable : s.Writable
  · have room : 2 < Json.Context.ofTable.room := by decide
    have chars : text = String.ofList s.tomlChars :=
      Option.some.inj (written.symm.trans (toml?_writable writable))
    obtain ⟨root, read, node⟩ := read_tomlChars writable
    rw [chars, Toml.decode, String.toList_ofList]
    simp only [read, node, decoder_json room s]
  · rw [toml?_eq_none_iff.mpr writable] at written
    cases written

/- What is read can be written. -/

theorem keeps_timeout : Json.Keeps Toml.integerLimit BuildSystemSettings.decoder
    (·.timeoutSeconds.toNat ≤ Toml.integerLimit) := by
  refine Json.keeps_record (.cons (Json.keeps_word "u64") ?_ <| .cons (Json.keeps_any _) ?_ <|
    .cons (Json.keeps_any _) ?_ <| .cons (Json.keeps_any _) ?_ .nil) "BuildSystemConfig" ?_
  · rintro n ⟨⟩
    decide
  · intro _ _
    trivial
  · intro _ _
    trivial
  · intro _ _
    trivial
  · intro b kept
    exact kept.1

theorem keeps_depth : Json.Keeps Toml.integerLimit PlanningSettings.decoder
    (·.maxTreeDepth.toNat ≤ Toml.integerLimit) := by
  refine Json.keeps_record (.cons (Json.keeps_word "usize") ?_ .nil) "PlanningConfig" ?_
  · rintro n ⟨⟩
    decide
  · intro b kept
    exact kept.1

theorem keeps_writable : Json.Keeps Toml.integerLimit decoder Writable := by
  refine Json.keeps_record (.cons keeps_timeout ?_ <| .cons keeps_depth ?_ .nil) "RolloutConfig" ?_
  · rintro b ⟨⟩
    decide
  · rintro p ⟨⟩
    decide
  · intro b kept
    exact ⟨kept.1, kept.2.1⟩

theorem usable_of_ofToml {text : String} (read : ofToml text = .ok s) :
    s.validate = .ok () ∧ s.Writable := by
  rw [ofToml] at read
  split at read
  · cases read
  · rename_i decoded
    split at read
    · cases read
    · rename_i valid
      cases read
      exact ⟨valid, Toml.keeps_of_decode keeps_writable decoded⟩

theorem writable_iff : s.Writable ↔
    ¬ (2 ^ 63 - 1 < s.buildSystem.timeoutSeconds.toNat ∨
      2 ^ 63 - 1 < s.planning.maxTreeDepth.toNat) := by
  have limit : Toml.integerLimit = 2 ^ 63 - 1 := by decide
  rw [Writable, limit]
  omega

/-- Only numbers can keep settings from being written. What was written is read back as it was if it
is valid, and otherwise refused for what makes it invalid; what is read is valid and can be written. -/
theorem toml_read_back (s : Settings) :
    (s.toml? = none ↔ 2 ^ 63 - 1 < s.buildSystem.timeoutSeconds.toNat ∨
      2 ^ 63 - 1 < s.planning.maxTreeDepth.toNat) ∧
    (∀ text, s.toml? = some text →
      (s.validate = .ok () → ofToml text = .ok s) ∧
      ∀ i, s.validate = .error i → ofToml text = .error (.invalid i)) ∧
    ∀ text, ofToml text = .ok s → s.validate = .ok () ∧ ∃ written, s.toml? = some written := by
  refine ⟨?_, ?_, ?_⟩
  · rw [toml?_eq_none_iff, writable_iff, not_not]
  · intro text written
    have decoded := decode_written written
    constructor
    · intro valid
      simp only [ofToml, decoded, valid]
    · intro i invalid
      simp only [ofToml, decoded, invalid]
  · intro text read
    obtain ⟨valid, writable⟩ := usable_of_ofToml read
    exact ⟨valid, _, toml?_writable writable⟩

def quoted : Settings where
  buildSystem :=
    { apiVersion := "'''\n\"\"\"", userAgent := "C:\\rollout 'é' \"\t\"", token := some "a\r\x01" }

theorem toml_read_back_quoted :
    ∃ text, quoted.toml? = some text ∧ ofToml text = .ok quoted := by
  have written : quoted.toml? = some (String.ofList quoted.tomlChars) :=
    toml?_writable ⟨by decide, by decide⟩
  exact ⟨_, written, ((toml_read_back quoted).2.1 _ written).1 rfl⟩

end DeployPlan.Settings
