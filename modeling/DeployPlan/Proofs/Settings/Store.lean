import DeployPlan.Proofs.Files
import DeployPlan.Proofs.Settings.File
import DeployPlan.Settings.Store

/-!
Histories of a store. Settings are saved and the token outside is changed in any order; what is loaded
then depends on the settings that were saved last and on the token alone.
-/

namespace DeployPlan.Settings

inductive Step where
  | save (settings : Settings)
  | setToken (bytes : Option (List UInt8))
  | load

namespace Store

def after (s : Store) : Step → Store
  | .save settings =>
    match s.save settings with
    | .ok saved => saved
    | .error _ => s
  | .setToken bytes => { s with token := bytes }
  | .load => s

def run (s : Store) (steps : List Step) : Store :=
  steps.foldl after s

def saves (s : Store) : Step → Option Settings
  | .save settings =>
    match s.save settings with
    | .ok _ => some settings
    | .error _ => none
  | _ => none

def lastSaved (s : Store) : List Step → Option Settings
  | [] => none
  | step :: steps => ((s.after step).lastSaved steps).or (s.saves step)

/-- There is no file yet, and nothing is in the way of its directory. -/
structure Fresh (s : Store) : Prop where
  named : s.names ≠ []
  absent : s.files.at? s.names = none
  directory : ∃ files, s.files.addDirectory s.names.dropLast = .ok files

/-- The file of a store that started as `start` holds these settings, or is not there. -/
structure Holds (start : Store) (saved : Option Settings) (now : Store) : Prop where
  base : now.base = start.base
  path : now.path = start.path
  named : now.names ≠ []
  directory : ∃ files, now.files.addDirectory now.names.dropLast = .ok files
  file : now.files.at? now.names =
    saved.bind fun settings => settings.toml?.map fun text => .file (Text.Utf8.encode text.toList)
  written : ∀ settings ∈ saved, settings.Writable

variable {start now : Store} {saved : Option Settings} {settings : Settings}

theorem Fresh.holds (fresh : start.Fresh) : Holds start none start where
  base := rfl
  path := rfl
  named := fresh.named
  directory := fresh.directory
  file := fresh.absent
  written := by simp

theorem Holds.not_directory (holds : Holds start saved now) :
    now.files.at? now.names ≠ some .directory := by
  intro directory
  have file := holds.file.symm.trans directory
  simp [Option.bind_eq_some_iff] at file

theorem length_dropLast_lt {names : List String} (named : names ≠ []) :
    names.dropLast.length < names.length := by
  have some := List.length_pos_of_ne_nil named
  rw [List.length_dropLast]
  omega

theorem Holds.exists_save (holds : Holds start saved now) (writable : settings.Writable) :
    ∃ next, now.save settings = .ok next ∧ Holds start (some settings) next := by
  obtain ⟨files, added⟩ := holds.directory
  have deeper := length_dropLast_lt holds.named
  have there := Files.addDirectory_there added
  have own : files.at? now.names ≠ some .directory := by
    rw [Files.addDirectory_deeper added deeper]
    exact holds.not_directory
  have text := toml?_writable writable
  obtain ⟨written, wrote, contents, others⟩ := Files.exists_write holds.named there own
    (Text.Utf8.encode (String.ofList settings.tomlChars).toList)
  have shorter : now.names.dropLast ≠ now.names := by
    intro same
    rw [same] at deeper
    exact Nat.lt_irrefl _ deeper
  refine ⟨{ now with files := written }, ?_, ?_⟩
  · simp only [save, text, added, wrote]
  · refine ⟨holds.base, holds.path, holds.named, ⟨written, ?_⟩, ?_, ?_⟩
    · exact Files.addDirectory_of_there ((others _ shorter).trans there)
    · refine contents.trans ?_
      simp [text]
    · rintro _ ⟨⟩
      exact writable

theorem save_tooLarge (large : ¬ settings.Writable) (s : Store) :
    s.save settings = .error .tooLarge := by
  have none := toml?_eq_none_iff.mpr large
  simp only [save, none]

theorem Holds.save_eq_error_iff (holds : Holds start saved now) (settings : Settings)
    (e : StoreError) :
    now.save settings = .error e ↔
      e = .tooLarge ∧ (2 ^ 63 - 1 < settings.buildSystem.timeoutSeconds.toNat ∨
        2 ^ 63 - 1 < settings.planning.maxTreeDepth.toNat) := by
  by_cases writable : settings.Writable
  · obtain ⟨next, saves, -⟩ := holds.exists_save writable
    have small := writable_iff.mp writable
    rw [saves]
    exact iff_of_false nofun fun large => small large.2
  · have large := not_not.mp (mt writable_iff.mpr writable)
    rw [save_tooLarge writable, Except.error.injEq]
    exact ⟨fun same => ⟨same.symm, large⟩, fun given => given.1.symm⟩

theorem Holds.step (holds : Holds start saved now) (step : Step) :
    Holds start ((now.saves step).or saved) (now.after step) := by
  cases step with
  | load => exact holds
  | setToken bytes => exact ⟨holds.base, holds.path, holds.named, holds.directory, holds.file, holds.written⟩
  | save settings =>
    by_cases writable : settings.Writable
    · obtain ⟨next, saves, held⟩ := holds.exists_save writable
      simp only [Store.saves, after, saves]
      exact held
    · simp only [Store.saves, after, save_tooLarge writable]
      exact holds

theorem Holds.run (holds : Holds start saved now) (steps : List Step) :
    Holds start ((now.lastSaved steps).or saved) (now.run steps) := by
  induction steps generalizing now saved with
  | nil => exact holds
  | cons step steps ih =>
    have later := ih (holds.step step)
    rw [← Option.or_assoc] at later
    exact later

theorem Holds.load (holds : Holds start saved now) :
    now.load =
      match (saved.getD {}).validate with
      | .ok () => .ok ((saved.getD {}).withToken now.outerToken)
      | .error i => .error (.unusable (start.shown start.path) (.invalid i)) := by
  have place : now.shown now.path = start.shown start.path := by
    rw [shown, shown, holds.base, holds.path]
  cases saved with
  | none =>
    have file : now.files.at? now.names = none := holds.file
    simp only [Store.load, stored, file]
    rfl
  | some settings =>
    have text := toml?_writable (holds.written settings rfl)
    have file : now.files.at? now.names =
        some (.file (Text.Utf8.encode (String.ofList settings.tomlChars).toList)) := by
      rw [holds.file, Option.bind_some, text, Option.map_some]
    have decoded := decode_written text
    simp only [Store.load, stored, file, Files.text_of_encoded file, ofToml, decoded, place,
      Option.isNone_some, Option.getD_some]
    cases settings.validate <;> rfl

/- The token outside. -/

theorem outerToken_of_encoded {t : String} (given : now.token = some (Text.Utf8.encode t.toList)) :
    now.outerToken = some t := by
  have decoded := Text.Utf8.decode?_eq_some_iff.mpr (rfl : Text.Utf8.encode t.toList = _)
  rw [outerToken, given, Option.bind_some, decoded]
  exact congrArg some String.ofList_toList

theorem withToken_of_none (settings : Settings)
    (other : ∀ t : String, t ≠ "" → now.token ≠ some (Text.Utf8.encode t.toList)) :
    settings.withToken now.outerToken = settings := by
  cases outer : now.outerToken with
  | none => rfl
  | some t =>
    obtain ⟨cs, decoded, chars⟩ := Option.map_eq_some_iff.mp outer
    obtain ⟨bytes, given, decoded⟩ := Option.bind_eq_some_iff.mp decoded
    have encoded : bytes = Text.Utf8.encode t.toList := by
      rw [Text.Utf8.decode?_eq_some_iff.mp decoded, ← chars, String.toList_ofList]
    have empty : t = "" := by
      by_contra some
      exact other t some (encoded ▸ given)
    rw [empty]
    rfl

/-- After every history of saves and changes of the token, saving fails for nothing but numbers that
are too large, and the file holds the settings that were saved last. They, or else the defaults, are
loaded with the token outside if that is text and not empty. Where they are not valid, loading fails,
and only there. -/
theorem load_after (s : Store) (fresh : s.Fresh) (steps : List Step) :
    let now := s.run steps
    let saved := (s.lastSaved steps).getD {}
    (∀ settings e, now.save settings = .error e ↔
      e = .tooLarge ∧ (2 ^ 63 - 1 < settings.buildSystem.timeoutSeconds.toNat ∨
        2 ^ 63 - 1 < settings.planning.maxTreeDepth.toNat)) ∧
    (now.files.at? now.names = (s.lastSaved steps).bind fun settings =>
      settings.toml?.map fun text => .file (Text.Utf8.encode text.toList)) ∧
    (saved.validate = .ok () →
      (∀ t : String, t ≠ "" → now.token = some (Text.Utf8.encode t.toList) →
        now.load = .ok { saved with buildSystem := { saved.buildSystem with token := some t } }) ∧
      ((∀ t : String, t ≠ "" → now.token ≠ some (Text.Utf8.encode t.toList)) →
        now.load = .ok saved)) ∧
    ∀ i, saved.validate = .error i →
      now.load = .error (.unusable (s.shown s.path) (.invalid i)) := by
  intro now saved
  -- Whatever else is done, the file holds what was saved last.
  have holds := fresh.holds.run steps
  rw [Option.or_none] at holds
  have load : now.load =
      match saved.validate with
      | .ok () => .ok (saved.withToken now.outerToken)
      | .error i => .error (.unusable (s.shown s.path) (.invalid i)) := holds.load
  refine ⟨holds.save_eq_error_iff, holds.file, ?_, ?_⟩
  · intro valid
    rw [valid] at load
    constructor
    · intro t some given
      have given_text : ¬ t.isEmpty := by simpa using some
      rw [outerToken_of_encoded given, withToken, if_neg given_text] at load
      exact load
    · intro other
      rw [withToken_of_none saved other] at load
      exact load
  · intro i invalid
    rw [invalid] at load
    exact load

def empty : Store where
  base := "<dir>"
  path := "rollout.toml"

theorem empty_fresh : empty.Fresh where
  named := by decide
  absent := by rfl
  directory := ⟨{}, by rfl⟩

theorem load_after_overridden :
    let steps := [.save quoted, .setToken (some (Text.Utf8.encode "secret".toList)), .load]
    (empty.run steps).load =
      .ok { quoted with buildSystem := { quoted.buildSystem with token := some "secret" } } := by
  intro steps
  have writable : quoted.Writable := ⟨by decide, by decide⟩
  obtain ⟨next, saves, -⟩ := empty_fresh.holds.exists_save writable
  have last : empty.lastSaved steps = some quoted := by
    simp [steps, lastSaved, Store.saves, saves]
  have loads := (load_after empty empty_fresh steps).2.2.1
  rw [last] at loads
  exact (loads rfl).1 "secret" (by decide) rfl

/-- What is not valid is saved all the same, and then not loaded. -/
theorem blank_version_saved :
    let blank : Settings := { buildSystem := { apiVersion := "" } }
    empty.Fresh ∧ ∃ saved, empty.save blank = .ok saved ∧
      saved.load = .error (.unusable "<dir>/rollout.toml" (.invalid .apiVersion)) := by
  intro blank
  have writable : blank.Writable := ⟨by decide, by decide⟩
  obtain ⟨saved, saves, holds⟩ := empty_fresh.holds.exists_save writable
  exact ⟨empty_fresh, saved, saves, holds.load⟩

end Store

end DeployPlan.Settings
