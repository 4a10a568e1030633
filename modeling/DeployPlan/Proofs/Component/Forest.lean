import Mathlib.Data.List.Nodup
import DeployPlan.Component.Search

/-!
Forests. The declaration order of a forest is compositional, a bounded walk that ends well has seen
all of it, and where names are distinct two subtrees are nested or have no component in common.
-/

namespace DeployPlan.Component

@[elab_as_elim]
theorem forest_induction {motive : List Component → Prop} (nil : motive [])
    (cons : ∀ c cs, motive c.children → motive cs → motive (c :: cs)) : ∀ cs, motive cs
  | [] => nil
  | c :: cs => cons c cs (forest_induction nil cons c.children) (forest_induction nil cons cs)
termination_by cs => sizeOf cs
decreasing_by
  all_goals
    cases c
    simp only [List.cons.sizeOf_spec, Component.mk.sizeOf_spec]
    omega

theorem withDepthsOfAll_cons (depth : Nat) (c : Component) (cs : List Component) :
    withDepthsOfAll depth (c :: cs) =
      (depth, c) :: withDepthsOfAll (depth + 1) c.children ++ withDepthsOfAll depth cs := by
  cases c
  rw [withDepthsOfAll, withDepths]

theorem withDepthsOfAll_append (depth : Nat) (cs ds : List Component) :
    withDepthsOfAll depth (cs ++ ds) = withDepthsOfAll depth cs ++ withDepthsOfAll depth ds := by
  induction cs with
  | nil => rw [withDepthsOfAll]; rfl
  | cons c cs ih => simp only [List.cons_append, withDepthsOfAll_cons, ih, List.append_assoc]

theorem withDepthsOfAll_map_snd (depth : Nat) (cs : List Component) :
    (withDepthsOfAll depth cs).map (·.2) = preOrder cs := by
  induction cs using forest_induction generalizing depth with
  | nil => simp [preOrder, withDepthsOfAll]
  | cons c cs below others =>
    rw [preOrder, withDepthsOfAll_cons, withDepthsOfAll_cons]
    simp only [List.map_append, List.map_cons, below, others]

@[simp] theorem preOrder_nil : preOrder [] = [] := by
  simp [preOrder, withDepthsOfAll]

theorem preOrder_cons (c : Component) (cs : List Component) :
    preOrder (c :: cs) = c :: preOrder c.children ++ preOrder cs := by
  rw [preOrder, withDepthsOfAll_cons]
  simp only [List.map_append, List.map_cons, withDepthsOfAll_map_snd]

theorem preOrder_singleton (c : Component) : preOrder [c] = c :: preOrder c.children := by
  rw [preOrder_cons, preOrder_nil, List.append_nil]

theorem preOrder_append (cs ds : List Component) :
    preOrder (cs ++ ds) = preOrder cs ++ preOrder ds := by
  induction cs with
  | nil => rw [preOrder_nil]; rfl
  | cons c cs ih => simp only [List.cons_append, preOrder_cons, ih, List.append_assoc]

/- Nesting. -/

/-- `a` is `b` or stands somewhere below it. -/
def LiesIn (a b : Component) : Prop := a ∈ preOrder [b]

theorem liesIn_iff {a b : Component} : a.LiesIn b ↔ a = b ∨ a ∈ preOrder b.children := by
  rw [LiesIn, preOrder_singleton, List.mem_cons]

theorem LiesIn.refl (a : Component) : a.LiesIn a := liesIn_iff.mpr (Or.inl rfl)

theorem mem_preOrder_cons {a c : Component} {cs : List Component} :
    a ∈ preOrder (c :: cs) ↔ a.LiesIn c ∨ a ∈ preOrder cs := by
  rw [liesIn_iff, preOrder_cons, List.cons_append, List.mem_cons, List.mem_append, or_assoc]

theorem mem_preOrder_iff {a : Component} {cs : List Component} :
    a ∈ preOrder cs ↔ ∃ c ∈ cs, a.LiesIn c := by
  induction cs with
  | nil => simp
  | cons c cs ih => simp [mem_preOrder_cons, ih]

theorem mem_preOrder_of_mem {a : Component} {roots : List Component} (ha : a ∈ roots) :
    a ∈ preOrder roots :=
  mem_preOrder_iff.mpr ⟨a, ha, .refl a⟩

theorem LiesIn.mem_preOrder {a b : Component} {roots : List Component} (h : a.LiesIn b)
    (hb : b ∈ preOrder roots) : a ∈ preOrder roots := by
  induction roots using forest_induction with
  | nil => simp at hb
  | cons c cs below others =>
    rcases mem_preOrder_cons.mp hb with hb | hb
    · refine mem_preOrder_cons.mpr (Or.inl ?_)
      rcases liesIn_iff.mp hb with rfl | hb
      · exact h
      · exact liesIn_iff.mpr (Or.inr (below hb))
    · exact mem_preOrder_cons.mpr (Or.inr (others hb))

theorem LiesIn.trans {a b c : Component} (hab : a.LiesIn b) (hbc : b.LiesIn c) : a.LiesIn c :=
  hab.mem_preOrder hbc

def Occurs (roots : List Component) (n : String) : Prop :=
  ∃ c ∈ preOrder roots, c.name = n

def DistinctNames (roots : List Component) : Prop := ((preOrder roots).map (·.name)).Nodup

theorem DistinctNames.eq_of_name {roots : List Component} (distinct : DistinctNames roots)
    {a b : Component} (ha : a ∈ preOrder roots) (hb : b ∈ preOrder roots)
    (same : a.name = b.name) : a = b :=
  List.inj_on_of_nodup_map distinct ha hb same

theorem distinctNames_cons {c : Component} {cs : List Component} :
    DistinctNames (c :: cs) ↔ DistinctNames [c] ∧ DistinctNames cs ∧
      ∀ a : Component, a.LiesIn c → ∀ b ∈ preOrder cs, a.name ≠ b.name := by
  simp only [DistinctNames, LiesIn, preOrder_cons c cs, preOrder_singleton, List.map_append,
    List.nodup_append, List.forall_mem_map]

theorem DistinctNames.children {c : Component} (distinct : DistinctNames [c]) :
    DistinctNames c.children := by
  rw [DistinctNames, preOrder_singleton, List.map_cons, List.nodup_cons] at distinct
  exact distinct.2

theorem nested_of_common {roots : List Component} (distinct : DistinctNames roots)
    {a b x : Component} (ha : a ∈ preOrder roots) (hb : b ∈ preOrder roots) (xa : x.LiesIn a)
    (xb : x.LiesIn b) : a.LiesIn b ∨ b.LiesIn a := by
  induction roots using forest_induction with
  | nil => simp at ha
  | cons c cs below others =>
    obtain ⟨first, rest, apart⟩ := distinctNames_cons.mp distinct
    rcases mem_preOrder_cons.mp ha with ha | ha <;> rcases mem_preOrder_cons.mp hb with hb | hb
    · rcases liesIn_iff.mp ha with rfl | ha'
      · exact Or.inr hb
      · rcases liesIn_iff.mp hb with rfl | hb'
        · exact Or.inl ha
        · exact below first.children ha' hb'
    · exact absurd rfl (apart x (xa.trans ha) x (xb.mem_preOrder hb))
    · exact absurd rfl (apart x (xb.trans hb) x (xa.mem_preOrder ha))
    · exact others rest ha hb

theorem root_eq_of_liesIn {roots : List Component} (distinct : DistinctNames roots)
    {a b : Component} (ha : a ∈ roots) (hb : b ∈ roots) (h : a.LiesIn b) : a = b := by
  induction roots with
  | nil => cases ha
  | cons c cs ih =>
    obtain ⟨-, rest, apart⟩ := distinctNames_cons.mp distinct
    rcases List.mem_cons.mp ha with rfl | below_a <;> rcases List.mem_cons.mp hb with rfl | below_b
    · rfl
    · exact absurd rfl (apart a (.refl a) a (h.mem_preOrder (mem_preOrder_of_mem below_b)))
    · exact absurd rfl (apart a h a (mem_preOrder_of_mem below_a))
    · exact ih rest below_a below_b

/-- None of these components stands below another one. -/
def Flat (cs : List Component) : Prop := ∀ a ∈ cs, ∀ b ∈ cs, a.LiesIn b → a = b

/- Deployable components. -/

/-- The names of the deployable components of a forest in declaration order. -/
def deployed (roots : List Component) : List String :=
  ((preOrder roots).filter deployable).map (·.name)

theorem mem_deployed_iff {n : String} {roots : List Component} :
    n ∈ deployed roots ↔ ∃ c ∈ preOrder roots, c.deployable = true ∧ c.name = n := by
  simp [deployed, and_assoc]

theorem deployed_append (cs ds : List Component) :
    deployed (cs ++ ds) = deployed cs ++ deployed ds := by
  simp only [deployed, preOrder_append, List.filter_append, List.map_append]

theorem deployed_eq_flatMap (cs : List Component) :
    deployed cs = cs.flatMap fun c => deployed [c] := by
  induction cs with
  | nil => simp [deployed]
  | cons c cs ih => rw [List.flatMap_cons, ← ih, ← deployed_append]; rfl

theorem deployed_perm {cs ds : List Component} (perm : cs.Perm ds) :
    (deployed cs).Perm (deployed ds) := by
  rw [deployed_eq_flatMap cs, deployed_eq_flatMap ds]
  exact perm.flatMap_right _

theorem DistinctNames.nodup_deployed {roots : List Component} (distinct : DistinctNames roots) :
    (deployed roots).Nodup :=
  List.Nodup.sublist (List.filter_sublist.map _) distinct

theorem mem_deployed_iff_exists {n : String} {cs : List Component} :
    n ∈ deployed cs ↔ ∃ c ∈ cs, n ∈ deployed [c] := by
  rw [deployed_eq_flatMap, List.mem_flatMap]

theorem deployed_eq_nil_iff {cs : List Component} :
    deployed cs = [] ↔ ¬ ∃ c ∈ cs, ∃ a : Component, a.LiesIn c ∧ a.deployable = true := by
  have some : deployed cs ≠ [] ↔ ∃ c ∈ cs, ∃ a : Component, a.LiesIn c ∧ a.deployable = true := by
    constructor
    · intro some
      obtain ⟨n, member⟩ := List.exists_mem_of_ne_nil _ some
      obtain ⟨a, inside, deployable, -⟩ := mem_deployed_iff.mp member
      obtain ⟨c, member, inside⟩ := mem_preOrder_iff.mp inside
      exact ⟨c, member, a, inside, deployable⟩
    · rintro ⟨c, member, a, inside, deployable⟩
      have present := mem_preOrder_iff.mpr ⟨c, member, inside⟩
      exact List.ne_nil_of_mem (mem_deployed_iff.mpr ⟨a, present, deployable, rfl⟩)
  rw [← some, not_not]

theorem DistinctNames.name_mem_deployed_iff {roots : List Component}
    (distinct : DistinctNames roots) {b c : Component} (hb : b ∈ preOrder roots)
    (hc : c ∈ preOrder roots) : c.name ∈ deployed [b] ↔ c.LiesIn b ∧ c.deployable = true := by
  rw [mem_deployed_iff]
  constructor
  · rintro ⟨x, inside, deployable, same⟩
    cases distinct.eq_of_name (LiesIn.mem_preOrder inside hb) hc same
    exact ⟨inside, deployable⟩
  · rintro ⟨inside, deployable⟩
    exact ⟨c, inside, deployable, rfl⟩

theorem nested_of_mem_deployed {roots : List Component} (distinct : DistinctNames roots)
    {a b : Component} (ha : a ∈ preOrder roots) (hb : b ∈ preOrder roots) {n : String}
    (na : n ∈ deployed [a]) (nb : n ∈ deployed [b]) : a.LiesIn b ∨ b.LiesIn a := by
  obtain ⟨x, xa, -, xn⟩ := mem_deployed_iff.mp na
  obtain ⟨y, yb, -, yn⟩ := mem_deployed_iff.mp nb
  have same : x = y := distinct.eq_of_name (LiesIn.mem_preOrder xa ha) (LiesIn.mem_preOrder yb hb)
    (xn.trans yn.symm)
  exact nested_of_common distinct ha hb xa (same ▸ yb)

theorem LiesIn.deployed_subset {a b : Component} (h : a.LiesIn b) {n : String}
    (hn : n ∈ deployed [a]) : n ∈ deployed [b] := by
  obtain ⟨c, hc, deployable, name⟩ := mem_deployed_iff.mp hn
  exact mem_deployed_iff.mpr ⟨c, LiesIn.trans hc h, deployable, name⟩

/- Bounded walks. -/

theorem within_go_eq_ok_iff {limit : Nat} {walk : List (Nat × Component)} {cs : List Component} :
    within.go limit walk = .ok cs ↔ (∀ step ∈ walk, step.1 ≤ limit) ∧ cs = walk.map (·.2) := by
  induction walk generalizing cs with
  | nil => simp [within.go, eq_comm]
  | cons step walk ih =>
    obtain ⟨depth, c⟩ := step
    rw [within.go]
    by_cases deep : depth > limit
    · simp [if_pos deep, Nat.not_le_of_lt deep]
    · rw [if_neg deep]
      cases rest : within.go limit walk with
      | error e =>
        have none : ¬ ∀ step ∈ walk, step.1 ≤ limit := fun all => by
          have := ih.mpr ⟨all, rfl⟩
          rw [rest] at this
          cases this
        constructor
        · intro h
          cases h
        · intro h
          exact absurd (List.forall_mem_cons.mp h.1).2 none
      | ok ds =>
        obtain ⟨all, rfl⟩ := ih.mp rest
        simp only [Except.map, Except.ok.injEq, List.forall_mem_cons, List.map_cons]
        exact ⟨fun e => ⟨⟨Nat.le_of_not_lt deep, all⟩, e.symm⟩, fun h => h.2.symm⟩

theorem within_go_append (limit : Nat) (walk rest : List (Nat × Component)) :
    within.go limit (walk ++ rest) =
      (within.go limit walk).bind fun cs => (within.go limit rest).map (cs ++ ·) := by
  induction walk with
  | nil =>
    rw [List.nil_append, within.go]
    cases within.go limit rest <;> rfl
  | cons step walk ih =>
    obtain ⟨depth, c⟩ := step
    rw [List.cons_append, within.go, within.go, ih]
    by_cases deep : depth > limit
    · rw [if_pos deep, if_pos deep]
      rfl
    · rw [if_neg deep, if_neg deep]
      cases within.go limit walk with
      | error e => rfl
      | ok cs => cases within.go limit rest <;> rfl

theorem within_append (limit : Nat) (cs ds : List Component) :
    within limit (cs ++ ds) =
      (within limit cs).bind fun first => (within limit ds).map (first ++ ·) := by
  rw [within, withDepthsOfAll_append, within_go_append, within, within]

theorem within_eq_ok_iff {limit : Nat} {roots cs : List Component} :
    within limit roots = .ok cs ↔
      (∀ step ∈ withDepthsOfAll 1 roots, step.1 ≤ limit) ∧ cs = preOrder roots := by
  rw [within, within_go_eq_ok_iff, withDepthsOfAll_map_snd]

end DeployPlan.Component
