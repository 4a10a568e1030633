import DeployPlan.Proofs.Component.Forest

/-!
Depth. The depth of a component is the length of the path that leads to it. A forest is walked one
level down at a time, so the first component below a bound stands right below it, and there is one
exactly when some path is longer than the bound.
-/

namespace DeployPlan.Component

/-- The first component at this depth in declaration order; roots have depth 1. -/
def FirstAtDepth (depth : Nat) (roots : List Component) (c : Component) : Prop :=
  (withDepthsOfAll 1 roots).find? (·.1 == depth) = some (depth, c)

theorem heightOfAll_cons (c : Component) (cs : List Component) :
    heightOfAll (c :: cs) = max (1 + heightOfAll c.children) (heightOfAll cs) := by
  cases c
  rw [heightOfAll, height]

theorem lt_heightOfAll_iff {limit : Nat} {cs : List Component} :
    limit < heightOfAll cs ↔ ∃ c ∈ cs, limit < height c := by
  induction cs with
  | nil => simp [heightOfAll]
  | cons c cs ih =>
    have either : limit < max (height c) (heightOfAll cs) ↔
        limit < height c ∨ limit < heightOfAll cs := by omega
    rw [heightOfAll, either, ih, List.exists_mem_cons_iff]

theorem height_le_of_mem_preOrder {c : Component} {roots : List Component}
    (member : c ∈ preOrder roots) : height c ≤ heightOfAll roots := by
  induction roots using forest_induction with
  | nil => simp at member
  | cons b bs below others =>
    rw [heightOfAll_cons]
    rcases mem_preOrder_cons.mp member with inside | member
    · rcases liesIn_iff.mp inside with rfl | inside
      · obtain ⟨n, script, children⟩ := c
        rw [height]
        exact Nat.le_max_left _ _
      · have step := below inside
        omega
    · have step := others member
      omega

theorem heightOfAll_le_of_subset {cs roots : List Component} (known : ∀ c ∈ cs, c ∈ preOrder roots) :
    heightOfAll cs ≤ heightOfAll roots := by
  by_contra higher
  obtain ⟨c, member, high⟩ := lt_heightOfAll_iff.mp (Nat.lt_of_not_le higher)
  have low := height_le_of_mem_preOrder (known c member)
  omega

theorem withDepthsOfAll_le_iff {limit depth : Nat} (start : depth ≤ limit + 1)
    (cs : List Component) :
    (∀ step ∈ withDepthsOfAll depth cs, step.1 ≤ limit) ↔ depth + heightOfAll cs ≤ limit + 1 := by
  induction cs using forest_induction generalizing depth with
  | nil => simpa [withDepthsOfAll, heightOfAll] using start
  | cons c cs below others =>
    rw [withDepthsOfAll_cons, heightOfAll_cons, List.cons_append, List.forall_mem_cons,
      List.forall_mem_append, others start]
    by_cases deeper : depth ≤ limit
    · rw [below (Nat.succ_le_succ deeper)]
      omega
    · omega

theorem find?_beyond {limit depth : Nat} (start : depth ≤ limit + 1) (cs : List Component) :
    (withDepthsOfAll depth cs).find? (fun step => limit < step.1) =
      (withDepthsOfAll depth cs).find? (·.1 == limit + 1) := by
  induction cs using forest_induction generalizing depth with
  | nil => simp [withDepthsOfAll]
  | cons c cs below others =>
    rw [withDepthsOfAll_cons, List.cons_append]
    by_cases deeper : depth ≤ limit
    · rw [List.find?_cons_of_neg (by simpa using deeper),
        List.find?_cons_of_neg (by simpa using Nat.ne_of_lt (Nat.lt_succ_of_le deeper)),
        List.find?_append, List.find?_append, below (Nat.succ_le_succ deeper), others start]
    · have same : depth = limit + 1 := by omega
      rw [List.find?_cons_of_pos (by simp [same]), List.find?_cons_of_pos (by simp [same])]

theorem firstAtDepth_iff {limit : Nat} {roots : List Component} {c : Component} :
    FirstAtDepth (limit + 1) roots c ↔
      ∃ depth, (withDepthsOfAll 1 roots).find? (fun step => limit < step.1) = some (depth, c) := by
  rw [FirstAtDepth, find?_beyond (Nat.le_add_left 1 limit)]
  constructor
  · intro found
    exact ⟨limit + 1, found⟩
  · rintro ⟨depth, found⟩
    have same : depth = limit + 1 := by simpa using List.find?_some found
    exact same ▸ found

theorem exists_firstAtDepth_iff {limit : Nat} {roots : List Component} :
    (∃ c, FirstAtDepth (limit + 1) roots c) ↔ limit < heightOfAll roots := by
  have bounded := withDepthsOfAll_le_iff (Nat.le_add_left 1 limit) roots
  constructor
  · rintro ⟨c, first⟩
    by_contra low
    have within := bounded.mpr (by omega) _ (List.mem_of_find?_eq_some first)
    omega
  · intro high
    cases found : (withDepthsOfAll 1 roots).find? (fun step => limit < step.1) with
    | none =>
      have all := bounded.mp fun step member => by
        simpa using List.find?_eq_none.mp found step member
      omega
    | some step => exact ⟨step.2, firstAtDepth_iff.mpr ⟨step.1, found⟩⟩

theorem within_go_eq_error_iff {limit : Nat} {walk : List (Nat × Component)} {e : Failure} :
    within.go limit walk = .error e ↔
      ∃ depth c, walk.find? (fun step => limit < step.1) = some (depth, c) ∧
        e = .treeTooDeep c.name limit := by
  induction walk with
  | nil => simp [within.go]
  | cons step walk ih =>
    obtain ⟨depth, c⟩ := step
    rw [within.go]
    by_cases deep : limit < depth
    · rw [if_pos deep, List.find?_cons_of_pos (by simpa using deep)]
      simp [eq_comm]
    · rw [if_neg deep, List.find?_cons_of_neg (by simpa using deep), ← ih]
      cases within.go limit walk <;> simp [Except.map]

theorem within_eq_error_iff {limit : Nat} {roots : List Component} {e : Failure} :
    within limit roots = .error e ↔
      ∃ c, FirstAtDepth (limit + 1) roots c ∧ e = .treeTooDeep c.name limit := by
  rw [within, within_go_eq_error_iff, exists_comm]
  simp only [firstAtDepth_iff, exists_and_right]

/- Paths. -/

/-- A root, then one of its children, and so on. -/
inductive Path : List Component → List Component → Prop
  | root {roots : List Component} {c : Component} : c ∈ roots → Path roots [c]
  | down {roots path : List Component} {c : Component} :
      c ∈ roots → Path c.children path → Path roots (c :: path)

theorem Path.ne_nil {roots path : List Component} (descends : Path roots path) : path ≠ [] := by
  cases descends with
  | root _ => exact List.cons_ne_nil _ _
  | down _ _ => exact List.cons_ne_nil _ _

theorem not_path_nil {path : List Component} : ¬ Path [] path := by
  intro descends
  cases descends with
  | root member => cases member
  | down member _ => cases member

theorem path_cons_iff {c : Component} {cs path : List Component} :
    Path (c :: cs) path ↔
      path = [c] ∨ (∃ rest, path = c :: rest ∧ Path c.children rest) ∨ Path cs path := by
  constructor
  · intro descends
    cases descends with
    | root member =>
      rcases List.mem_cons.mp member with rfl | member
      · exact Or.inl rfl
      · exact Or.inr (Or.inr (.root member))
    | down member rest =>
      rcases List.mem_cons.mp member with rfl | member
      · exact Or.inr (Or.inl ⟨_, rfl, rest⟩)
      · exact Or.inr (Or.inr (.down member rest))
  · rintro (rfl | ⟨rest, rfl, descends⟩ | descends)
    · exact .root List.mem_cons_self
    · exact .down List.mem_cons_self descends
    · cases descends with
      | root member => exact .root (List.mem_cons_of_mem c member)
      | down member rest => exact .down (List.mem_cons_of_mem c member) rest

theorem Path.getLast?_cons {roots rest : List Component} (descends : Path roots rest)
    (c : Component) : (c :: rest).getLast? = rest.getLast? := by
  obtain ⟨b, more, rfl⟩ := List.exists_cons_of_ne_nil descends.ne_nil
  exact List.getLast?_cons_cons

theorem mem_withDepthsOfAll_iff {start depth : Nat} {c : Component} {roots : List Component} :
    (depth, c) ∈ withDepthsOfAll (start + 1) roots ↔
      ∃ path, Path roots path ∧ path.getLast? = some c ∧ depth = start + path.length := by
  -- A path through `b` is longer by one, as what is below `b` is deeper by one.
  induction roots using forest_induction generalizing start with
  | nil => simp [withDepthsOfAll, not_path_nil]
  | cons b bs below others =>
    rw [withDepthsOfAll_cons, List.cons_append, List.mem_cons, List.mem_append, below, others]
    constructor
    · rintro (here | ⟨path, descends, last, rfl⟩ | ⟨path, descends, last, rfl⟩)
      · cases here
        exact ⟨[c], .root List.mem_cons_self, rfl, rfl⟩
      · refine ⟨b :: path, .down List.mem_cons_self descends, ?_, ?_⟩
        · rw [descends.getLast?_cons, last]
        · rw [List.length_cons]
          omega
      · exact ⟨path, path_cons_iff.mpr (Or.inr (Or.inr descends)), last, rfl⟩
    · rintro ⟨path, descends, last, rfl⟩
      rcases path_cons_iff.mp descends with rfl | ⟨rest, rfl, inner⟩ | descends
      · cases last
        exact Or.inl rfl
      · rw [inner.getLast?_cons] at last
        refine Or.inr (Or.inl ⟨rest, inner, last, ?_⟩)
        rw [List.length_cons]
        omega
      · exact Or.inr (Or.inr ⟨path, descends, last, rfl⟩)

theorem mem_preOrder_iff_path {c : Component} {roots : List Component} :
    c ∈ preOrder roots ↔ ∃ path, Path roots path ∧ path.getLast? = some c := by
  rw [preOrder, List.mem_map]
  constructor
  · rintro ⟨⟨depth, c⟩, member, rfl⟩
    obtain ⟨path, descends, last, -⟩ := mem_withDepthsOfAll_iff.mp member
    exact ⟨path, descends, last⟩
  · rintro ⟨path, descends, last⟩
    exact ⟨_, mem_withDepthsOfAll_iff.mpr ⟨path, descends, last, rfl⟩, rfl⟩

theorem heightOfAll_le_iff {limit : Nat} {roots : List Component} :
    heightOfAll roots ≤ limit ↔ ∀ path, Path roots path → path.length ≤ limit := by
  have bounded := withDepthsOfAll_le_iff (Nat.le_add_left 1 limit) roots
  constructor
  · intro low path descends
    have steps := bounded.mpr (by omega)
    have last := List.getLast?_eq_some_getLast descends.ne_nil
    have step := steps _ (mem_withDepthsOfAll_iff.mpr ⟨path, descends, last, rfl⟩)
    simpa using step
  · intro short
    have steps : ∀ step ∈ withDepthsOfAll 1 roots, step.1 ≤ limit := by
      rintro ⟨depth, c⟩ member
      obtain ⟨path, descends, -, rfl⟩ := mem_withDepthsOfAll_iff.mp member
      have length := short path descends
      simpa using length
    have high := bounded.mp steps
    omega

theorem exists_path_iff {limit : Nat} {roots : List Component} :
    (∃ path, Path roots path ∧ limit < path.length) ↔ limit < heightOfAll roots := by
  rw [← Nat.not_le, heightOfAll_le_iff]
  simp only [not_forall, Nat.not_le, exists_prop]

/- Bounded walks. -/

theorem within_eq_preOrder {limit : Nat} {roots : List Component}
    (low : heightOfAll roots ≤ limit) : within limit roots = .ok (preOrder roots) := by
  refine within_eq_ok_iff.mpr ⟨?_, rfl⟩
  exact (withDepthsOfAll_le_iff (Nat.le_add_left 1 limit) roots).mpr (by omega)

end DeployPlan.Component
