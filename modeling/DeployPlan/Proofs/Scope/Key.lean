import Mathlib.Data.List.Nodup
import DeployPlan.Proofs.Text.Blank
import DeployPlan.Scope.Resolution

/-!
Names of variables. Most variables have a name of their own; the others have a beginning that tells
what they are about, followed by a tag or type. No beginning is the beginning of another one or of a
name of its own, so whatever the tags are, different variables have different names.
-/

namespace DeployPlan

namespace Scope

/-- `key` is what names take from a tag or type: trimmed, with underscores for blanks. -/
def KeyOf (raw key : String) : Prop :=
  Text.blank raw = false ∧ key = Text.replaceChar ' ' '_' (Text.trim raw)

instance (raw key : String) : Decidable (KeyOf raw key) :=
  inferInstanceAs (Decidable (_ ∧ _))

theorem keyPart?_eq_some_iff {raw key : String} : keyPart? raw = some key ↔ KeyOf raw key := by
  have empty : (Text.trim raw).isEmpty = Text.blank raw := by
    rw [Bool.eq_iff_iff, String.isEmpty_iff, Text.trim, Text.blank, List.all_eq_true,
      ← Text.trimChars_eq_nil_iff]
    exact String.ofList_eq_empty_iff
  rw [keyPart?, KeyOf, empty]
  cases Text.blank raw with
  | true => simp
  | false => simp [eq_comm]

inductive MainType where
  | endur
  | reporting
  | external
deriving DecidableEq, Repr

namespace MainType

def dbType : MainType → String
  | endur => "Endur"
  | reporting => "Endur Reporting"
  | external => "Endur External"

def beginning : MainType → String
  | endur => "Endur"
  | reporting => "EndurReporting"
  | external => "EndurExternal"

end MainType

inductive Single where
  | environmentName
  | environmentShortName
  | serverNames
  | servers
  | databasePermissions
  | fileSharePath
  | configFilePath
  | dbName (m : MainType)
  | dbServer (m : MainType)
deriving DecidableEq, Repr

def Single.text : Single → String
  | environmentName => "EnvironmentName"
  | environmentShortName => "EnvironmentShortName"
  | serverNames => "ServerNames"
  | servers => "Servers"
  | databasePermissions => "DatabasePermissions"
  | fileSharePath => "FileSharePath"
  | configFilePath => "ConfigFilePath"
  | dbName m => m.beginning ++ "DbName"
  | dbServer m => m.beginning ++ "DbServer"

inductive Family where
  | server
  | serverNames
  | dbServer
  | dbName
deriving DecidableEq, Repr

def Family.beginning : Family → String
  | server => "Server_"
  | serverNames => "ServerNames_"
  | dbServer => "DbServer_"
  | dbName => "DbName_"

inductive Key where
  | single (k : Single)
  | tagged (f : Family) (tag : String)
deriving DecidableEq, Repr

def Key.text : Key → String
  | single k => k.text
  | tagged f tag => f.beginning ++ tag

namespace Single

def all : List Single :=
  [environmentName, environmentShortName, serverNames, servers, databasePermissions, fileSharePath,
    configFilePath, dbName .endur, dbServer .endur, dbName .reporting, dbServer .reporting,
    dbName .external, dbServer .external]

theorem mem_all (k : Single) : k ∈ all := by
  cases k with
  | dbName m => cases m <;> decide
  | dbServer m => cases m <;> decide
  | _ => decide

theorem text_injective {a b : Single} (same : a.text = b.text) : a = b := by
  have distinct : (all.map text).Nodup := by decide
  exact List.inj_on_of_nodup_map distinct (mem_all a) (mem_all b) same

theorem not_tagged (f : Family) (k : Single) : ¬ f.beginning.toList <+: k.text.toList := by
  have apart : ∀ b ∈ all, ¬ f.beginning.toList <+: b.text.toList := by cases f <;> decide
  exact apart k (mem_all k)

end Single

theorem Family.beginning_free {f g : Family} (inside : f.beginning.toList <+: g.beginning.toList) :
    f = g := by
  cases f <;> cases g <;> first | rfl | exact absurd inside (by decide)

theorem Family.append_injective {f g : Family} {s t : String}
    (same : f.beginning ++ s = g.beginning ++ t) : f = g ∧ s = t := by
  have chars := congrArg String.toList same
  rw [String.toList_append, String.toList_append] at chars
  have family : f = g := by
    rcases List.prefix_or_prefix_of_prefix (List.prefix_append _ s.toList)
      (chars ▸ List.prefix_append _ t.toList) with inside | inside
    · exact beginning_free inside
    · exact (beginning_free inside).symm
  subst family
  exact ⟨rfl, String.toList_inj.mp (List.append_cancel_left chars)⟩

theorem Key.text_injective {k l : Key} (same : k.text = l.text) : k = l := by
  have apart : ∀ (f : Family) (tag : String) (a : Single), f.beginning ++ tag ≠ a.text := by
    intro f tag a same
    refine Single.not_tagged f a ?_
    rw [← same, String.toList_append]
    exact List.prefix_append _ _
  cases k with
  | single a =>
    cases l with
    | single b => exact congrArg single (Single.text_injective same)
    | tagged g t => exact absurd same.symm (apart g t a)
  | tagged f s =>
    cases l with
    | single b => exact absurd same (apart f s b)
    | tagged g t =>
      obtain ⟨rfl, rfl⟩ := Family.append_injective same
      rfl

end Scope

end DeployPlan
