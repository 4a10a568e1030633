import DeployPlan.Proofs.Build.Choice
import DeployPlan.Proofs.Scope.Databases

/-!
The main databases of an environment. Each has two kinds of variables, those of its type's family and the
shortcuts, and the two are found by different rules: a family is told by its key, where case counts and a
space is as good as an underscore, and a shortcut by the type itself, where case does not count. They begin
with the same database exactly when the first database that either rule takes is taken by both.
-/

namespace DeployPlan

theorem firstWith_cons_iff {α : Type} {p : α → Prop} {x y : α} {xs : List α} :
    FirstWith p (x :: xs) y ↔ p x ∧ y = x ∨ ¬ p x ∧ FirstWith p xs y := by
  constructor
  · rintro ⟨- | ⟨z, before⟩, after, split, holds, others⟩
    · obtain ⟨rfl, -⟩ := List.cons.inj split
      exact .inl ⟨holds, rfl⟩
    · obtain ⟨rfl, rfl⟩ := List.cons.inj split
      obtain ⟨not, others⟩ := List.forall_mem_cons.mp others
      exact .inr ⟨not, before, after, rfl, holds, others⟩
  · rintro (⟨holds, rfl⟩ | ⟨not, before, after, rfl, holds, others⟩)
    · exact ⟨[], xs, rfl, holds, by simp⟩
    · exact ⟨x :: before, after, rfl, holds, List.forall_mem_cons.mpr ⟨not, others⟩⟩

theorem exists_firstWith {α : Type} {p : α → Prop} {xs : List α} {x : α} (member : x ∈ xs) (holds : p x) :
    ∃ y, FirstWith p xs y := by
  classical
  have some : (xs.find? fun x => decide (p x)).isSome :=
    List.find?_isSome.mpr ⟨x, member, decide_eq_true holds⟩
  obtain ⟨y, found⟩ := Option.isSome_iff_exists.mp some
  exact ⟨y, (find?_eq_some_iff_firstWith fun _ => decide_eq_true_iff).mp found⟩

theorem findIdx?_eq_iff {α : Type} {p q : α → Bool} {xs : List α} (some : ∃ x ∈ xs, p x = true) :
    xs.findIdx? p = xs.findIdx? q ↔
      ∃ x, FirstWith (fun x => p x = true ∨ q x = true) xs x ∧ p x = true ∧ q x = true := by
  induction xs with
  | nil =>
    obtain ⟨x, member, -⟩ := some
    cases member
  | cons x xs ih =>
    rw [List.findIdx?_cons, List.findIdx?_cons]
    simp only [firstWith_cons_iff]
    cases hp : p x <;> cases hq : q x
    · -- The first element is passed over by both.
      have later : ∃ y ∈ xs, p y = true := by simpa [hp] using some
      simp only [Bool.false_eq_true, if_false, false_or, false_and, not_false_eq_true, true_and]
      rw [(Option.map_injective fun _ _ => Nat.succ.inj).eq_iff, ih later]
    · cases xs.findIdx? p <;> simp [hp]
    · cases xs.findIdx? q <;> simp [hq]
    · simp [hp, hq]

namespace Text

theorem lowerAscii_ne_space {c : Char} (other : c ≠ ' ') : lowerAscii c ≠ ' ' := by
  unfold lowerAscii
  split
  · rename_i capital
    have small : c.toNat ≤ 90 := capital.2
    have shifted : ∀ n ≤ 90, Char.ofNat (n + 32) = ' ' → n = 0 := by decide
    intro same
    have zero := shifted c.toNat small same
    have least : 65 ≤ c.toNat := capital.1
    omega
  · exact other

theorem eq_of_alike {s t : String} (sameCase : sameIgnoringCase s t = true)
    (spaced : replaceChar ' ' '_' s = replaceChar ' ' '_' t) : s = t := by
  rw [sameIgnoringCase, beq_iff_eq, lowerCase, lowerCase, String.ofList_inj] at sameCase
  rw [replaceChar, replaceChar, String.ofList_inj] at spaced
  rw [← String.toList_inj]
  generalize s.toList = cs at sameCase spaced
  generalize t.toList = ds at sameCase spaced
  induction cs generalizing ds with
  | nil => exact (List.map_eq_nil_iff.mp sameCase.symm).symm
  | cons c cs ih =>
    obtain ⟨d, ds, rfl⟩ : ∃ d ds', ds = d :: ds' := List.exists_cons_of_ne_nil (by rintro rfl; cases spaced)
    obtain ⟨lower, laterLower⟩ := List.cons.inj sameCase
    obtain ⟨first, later⟩ := List.cons.inj spaced
    rw [ih ds laterLower later]
    congr 1
    by_cases hc : c = ' ' <;> by_cases hd : d = ' '
    · rw [hc, hd]
    · rw [hc] at lower
      exact absurd lower.symm (lowerAscii_ne_space hd)
    · rw [hd] at lower
      exact absurd lower (lowerAscii_ne_space hc)
    · simpa [hc, hd] using first

theorem eq_of_replaceChar {old new : Char} {s t : String} (replaced : replaceChar old new s = t)
    (absent : new ∉ t.toList) : s = t := by
  subst replaced
  rw [replaceChar, String.toList_ofList] at absent
  have kept : ∀ c ∈ s.toList, (if c = old then new else c) = c := by
    intro c member
    refine if_neg fun same => absent (List.mem_map.mpr ⟨c, member, if_pos same⟩)
  rw [replaceChar, ← String.toList_inj, String.toList_ofList, List.map_congr_left kept]
  exact (List.map_id' _).symm

end Text

namespace Scope

def MainType.key : MainType → String
  | endur => "Endur"
  | reporting => "Endur_Reporting"
  | external => "Endur_External"

/-- The database stands in the family of the type. -/
def InFamily (d : Database) (m : MainType) : Prop :=
  keyPart? d.dbType = some m.key

instance (d : Database) (m : MainType) : Decidable (InFamily d m) :=
  inferInstanceAs (Decidable (_ = _))

def Counts (d : Database) (m : MainType) : Prop :=
  InFamily d m ∨ OfType d m

instance (d : Database) (m : MainType) : Decidable (Counts d m) :=
  inferInstanceAs (Decidable (_ ∨ _))

/-- The type is spelled exactly, up to surrounding blanks. -/
def Exact (d : Database) (m : MainType) : Prop :=
  Text.trim d.dbType = m.dbType

instance (d : Database) (m : MainType) : Decidable (Exact d m) :=
  inferInstanceAs (Decidable (_ = _))

theorem exact_iff {d : Database} {m : MainType} : Exact d m ↔ InFamily d m ∧ OfType d m := by
  have key : Text.replaceChar ' ' '_' m.dbType = m.key := by cases m <;> decide
  constructor
  · intro exact
    unfold Exact at exact
    refine ⟨?_, ?_⟩
    · rw [InFamily, keyPart?, exact, key]
      cases m <;> rfl
    · rw [OfType, exact, Text.sameIgnoringCase, beq_self_eq_true]
  · rintro ⟨keyed, typed⟩
    obtain ⟨-, spaced⟩ := keyPart?_eq_some_iff.mp keyed
    rw [← key] at spaced
    exact Text.eq_of_alike typed spaced.symm

theorem exact_of_key {d : Database} (keyed : InFamily d .endur) : Exact d .endur := by
  obtain ⟨-, spaced⟩ := keyPart?_eq_some_iff.mp keyed
  exact Text.eq_of_replaceChar spaced.symm (by decide)

def familyVariables (value : String → Option Variable) (m : MainType) :
    Option Variable × Option Variable :=
  (value ("DbName_" ++ m.key), value ("DbServer_" ++ m.key))

def shortcuts (value : String → Option Variable) (m : MainType) : Option Variable × Option Variable :=
  (value (m.beginning ++ "DbName"), value (m.beginning ++ "DbServer"))

def familyPlace? (databases : List Database) (m : MainType) : Option Nat :=
  databases.findIdx? (keyPart? ·.dbType == some m.key)

def shortcutPlace? (databases : List Database) (m : MainType) : Option Nat :=
  databases.findIdx? fun d => Text.sameIgnoringCase (Text.trim d.dbType) m.dbType

variable {databases : List Database} {m : MainType}

theorem databasesAt_ne_nil_iff : databasesAt databases m.key ≠ [] ↔ ∃ d ∈ databases, InFamily d m := by
  simp [databasesAt, InFamily]

theorem head?_databasesAt :
    (databasesAt databases m.key).head? = (familyPlace? databases m).bind (databases[·]?) := by
  rw [databasesAt, List.head?_filter, List.find?_eq_bind_findIdx?_getElem?]
  rfl

theorem shortcutPlace?_ne_none_iff :
    shortcutPlace? databases m ≠ none ↔ ∃ d ∈ databases, OfType d m := by
  rw [shortcutPlace?, ne_eq, List.findIdx?_eq_none_iff]
  simp [OfType]

theorem findByType?_eq :
    findByType? databases m.dbType = (shortcutPlace? databases m).bind (databases[·]?) := by
  rw [findByType?, List.find?_eq_bind_findIdx?_getElem?]
  rfl

theorem familyPlace?_eq_iff (some : databasesAt databases m.key ≠ []) :
    familyPlace? databases m = shortcutPlace? databases m ↔
      ∃ d, FirstWith (Counts · m) databases d ∧ Exact d m := by
  have listed : ∃ d ∈ databases, (keyPart? d.dbType == Option.some m.key) = true := by
    simpa [InFamily] using databasesAt_ne_nil_iff.mp some
  rw [familyPlace?, shortcutPlace?, findIdx?_eq_iff listed]
  simp only [beq_iff_eq, exact_iff]
  rfl

theorem mem_shortcutVariables (environment : Environment) {d : Database}
    (found : findByType? databases m.dbType = some d) :
    (m.beginning ++ "DbName", .scalar d.name) ∈ shortcutVariables environment databases ∧
      (m.beginning ++ "DbServer", .scalar d.server) ∈ shortcutVariables environment databases := by
  have pair : ((findByType? databases m.dbType).toList.map (shortcutPair m.beginning)).flatten =
      shortcutPair m.beginning d := by
    rw [found]
    exact List.append_nil _
  have listed : ∀ entry ∈ shortcutPair m.beginning d, entry ∈ shortcutVariables environment databases := by
    intro entry member
    rw [← pair] at member
    unfold shortcutVariables
    simp only [List.mem_append]
    cases m with
    | endur => exact .inl (.inl (.inl member))
    | reporting => exact .inl (.inr member)
    | external => exact .inr member
  exact ⟨listed _ (by simp [shortcutPair]), listed _ (by simp [shortcutPair])⟩

variable {topology : TopologyStore} {paths : PathStore} {environment : Environment} {rows : Rows}

theorem familyVariables_resolve (read : readRows topology environment = .ok rows) (s : Scope)
    (some : databasesAt rows.databases m.key ≠ []) :
    familyVariables ((resolve topology paths environment).run s).state.get? m =
      (Option.some (.ofMatches ((databasesAt rows.databases m.key).map (·.name))),
        Option.some (.ofMatches ((databasesAt rows.databases m.key).map (·.server)))) := by
  obtain ⟨servers, names⟩ := mem_databaseVariables (databasesAt_ne_nil_iff.mp some)
  have found : ∀ {entry}, entry ∈ databaseVariables rows.databases → entry ∈ rows.variables environment :=
    fun member => Rows.mem_variables_iff.mpr (.inr (.inr (.inl member)))
  exact Prod.ext (get?_resolve_of_mem read (found names) s) (get?_resolve_of_mem read (found servers) s)

theorem shortcuts_resolve (read : readRows topology environment = .ok rows) (s : Scope) {d : Database}
    (found : findByType? rows.databases m.dbType = some d) :
    shortcuts ((resolve topology paths environment).run s).state.get? m =
      (some (.scalar d.name), some (.scalar d.server)) := by
  obtain ⟨name, server⟩ := mem_shortcutVariables environment found
  have set : ∀ {entry}, entry ∈ shortcutVariables environment rows.databases →
      entry ∈ rows.variables environment :=
    fun member => Rows.mem_variables_iff.mpr (.inr (.inr (.inr (.inr member))))
  exact Prod.ext (get?_resolve_of_mem read (set name) s) (get?_resolve_of_mem read (set server) s)

theorem familyVariables_of_empty (read : readRows topology environment = .ok rows) (s : Scope)
    (none : databasesAt rows.databases m.key = []) :
    familyVariables ((resolve topology paths environment).run s).state.get? m =
      familyVariables s.get? m := by
  have unset : ∀ facts : Facts, facts.toRows = rows → ¬ ∃ d ∈ facts.databases, KeyOf d.dbType m.key := by
    rintro facts rfl ⟨d, known, keyed⟩
    exact databasesAt_ne_nil_iff.mpr ⟨d, known, keyPart?_eq_some_iff.mpr keyed⟩ none
  exact Prod.ext (get?_resolve_of_not_sets read (.tagged .dbName m.key) unset s)
    (get?_resolve_of_not_sets read (.tagged .dbServer m.key) unset s)

theorem shortcuts_of_none (read : readRows topology environment = .ok rows) (s : Scope)
    (none : shortcutPlace? rows.databases m = none) :
    shortcuts ((resolve topology paths environment).run s).state.get? m = shortcuts s.get? m := by
  have unset : ∀ facts : Facts, facts.toRows = rows → ¬ ∃ d ∈ facts.databases, OfType d m := by
    rintro facts rfl ⟨d, known, typed⟩
    exact shortcutPlace?_ne_none_iff.mpr ⟨d, known, typed⟩ none
  exact Prod.ext (get?_resolve_of_not_sets read (.single (.dbName m)) unset s)
    (get?_resolve_of_not_sets read (.single (.dbServer m)) unset s)

/-- After a resolution the family and the shortcuts of a main type have what their own rules find. They
begin with the same database exactly when the first one that counts for either has the type in its exact
spelling, so they do where all that count are spelled so. -/
theorem main_databases (read : readRows topology environment = .ok rows) (s : Scope) (m : MainType) :
    let value := ((resolve topology paths environment).run s).state.get?
    let family := databasesAt rows.databases m.key
    ((family = [] → familyVariables value m = familyVariables s.get? m) ∧
      (family ≠ [] → familyVariables value m =
        (some (.ofMatches (family.map (·.name))), some (.ofMatches (family.map (·.server))))) ∧
      family.head? = (familyPlace? rows.databases m).bind (rows.databases[·]?)) ∧
    ((shortcutPlace? rows.databases m = none → shortcuts value m = shortcuts s.get? m) ∧
      (∀ d, (shortcutPlace? rows.databases m).bind (rows.databases[·]?) = some d →
        shortcuts value m = (some (.scalar d.name), some (.scalar d.server))) ∧
      (m = .endur → family ≠ [] → shortcutPlace? rows.databases m ≠ none)) ∧
    (family ≠ [] →
      (familyPlace? rows.databases m = shortcutPlace? rows.databases m ↔
        ∃ d, FirstWith (Counts · m) rows.databases d ∧ Exact d m) ∧
      ((∀ d ∈ rows.databases, Counts d m → Exact d m) → ∃ d, family.head? = some d ∧
        shortcuts value m = (some (.scalar d.name), some (.scalar d.server)))) := by
  intro value family
  have named : ∀ d, (shortcutPlace? rows.databases m).bind (rows.databases[·]?) = some d →
      shortcuts value m = (some (.scalar d.name), some (.scalar d.server)) := fun d found =>
    shortcuts_resolve read s (findByType?_eq.trans found)
  refine ⟨⟨familyVariables_of_empty read s, familyVariables_resolve read s, head?_databasesAt⟩,
    ⟨shortcuts_of_none read s, named, ?_⟩, fun some => ⟨familyPlace?_eq_iff some, fun spelled => ?_⟩⟩
  · rintro rfl some
    obtain ⟨d, known, keyed⟩ := databasesAt_ne_nil_iff.mp some
    exact shortcutPlace?_ne_none_iff.mpr ⟨d, known, (exact_iff.mp (exact_of_key keyed)).2⟩
  · obtain ⟨d, known, keyed⟩ := databasesAt_ne_nil_iff.mp some
    obtain ⟨d, first⟩ := exists_firstWith (p := (Counts · m)) known (.inl keyed)
    obtain ⟨counted, counts⟩ := first.holds
    have agree := (familyPlace?_eq_iff some).mpr ⟨d, first, spelled d counted counts⟩
    obtain ⟨d, rest, begins⟩ := List.exists_cons_of_ne_nil some
    have head : family.head? = Option.some d := congrArg List.head? begins
    refine ⟨d, head, named d ?_⟩
    rw [← agree, ← head?_databasesAt]
    exact head

def spellings : List Database :=
  [⟨"MAIN", "sql01", " Endur"⟩, ⟨"OTHER", "sql02", "ENDUR"⟩, ⟨"EXT1", "sql03", "Endur_External"⟩,
    ⟨"EXT2", "sql04", "Endur External "⟩]

theorem main_databases_spellings :
    let environment : Environment := { id := 1, name := "UAT" }
    let catalog : Catalog := spellings.foldl (·.addDatabase 1 ·) {}
    let value s := ((resolve catalog.topologyStore catalog.pathStore environment).run s).state.get?
    readRows catalog.topologyStore environment = .ok ⟨[], spellings, []⟩ ∧
    ∀ s, familyVariables (value s) .endur = (some (.scalar "MAIN"), some (.scalar "sql01")) ∧
      shortcuts (value s) .endur = (some (.scalar "MAIN"), some (.scalar "sql01")) ∧
      familyVariables (value s) .external =
        (some (.array ["EXT1", "EXT2"]), some (.array ["sql03", "sql04"])) ∧
      shortcuts (value s) .external = (some (.scalar "EXT2"), some (.scalar "sql04")) ∧
      familyPlace? spellings .external ≠ shortcutPlace? spellings .external := by
  intro environment catalog value
  have read : readRows catalog.topologyStore environment = .ok ⟨[], spellings, []⟩ := rfl
  refine ⟨read, fun s => ?_⟩
  obtain ⟨⟨-, family, -⟩, ⟨-, named, -⟩, -⟩ := @main_databases _ catalog.pathStore _ _ read s .endur
  obtain ⟨⟨-, family', -⟩, ⟨-, named', -⟩, -⟩ :=
    @main_databases _ catalog.pathStore _ _ read s .external
  refine ⟨family (by decide), named spellings[0] (by decide), family' (by decide),
    named' spellings[3] (by decide), by decide⟩

/-- A type in small letters has a family of its own, but the shortcuts name its database; and a type with an
underscore is in the family, but no shortcut names its database. -/
theorem two_main_databases :
    let databases : List Database :=
      [⟨"FIRST", "sql01", "endur"⟩, ⟨"SECOND", "sql02", "Endur"⟩, ⟨"REP", "sql03", "Endur_Reporting"⟩]
    let catalog : Catalog := databases.foldl (·.addDatabase 1 ·) {}
    let after := ((resolve catalog.topologyStore catalog.pathStore { id := 1, name := "UAT" }).run {}).state
    after.get? "DbName_Endur" = some (.scalar "SECOND") ∧
      after.get? "EndurDbName" = some (.scalar "FIRST") ∧
      after.get? "DbServer_Endur" = some (.scalar "sql02") ∧
      after.get? "EndurDbServer" = some (.scalar "sql01") ∧
      after.get? "DbName_Endur_Reporting" = some (.scalar "REP") ∧
      after.get? "EndurReportingDbName" = none := by
  decide

end Scope

end DeployPlan
