/-!
Lists of keys with values, in the order in which the keys were first set. Setting the value of a key
changes what is found under this key and nothing else, and repeats no key. Where no key is repeated, the
order of the entries does not matter.
-/

namespace DeployPlan

def putEntry {κ α : Type} [DecidableEq κ] (k : κ) (a : α) : List (κ × α) → List (κ × α)
  | [] => [(k, a)]
  | (k', a') :: rest => if k' = k then (k, a) :: rest else (k', a') :: putEntry k a rest

def appendEntry {κ α : Type} [DecidableEq κ] (k : κ) (a : α) (m : List (κ × List α)) :
    List (κ × List α) :=
  putEntry k ((m.lookup k).getD [] ++ [a]) m

variable {κ α : Type} [DecidableEq κ]

section

variable [BEq κ] [LawfulBEq κ] {k k' : κ}

theorem lookup_putEntry_self (k : κ) (a : α) (entries : List (κ × α)) :
    (putEntry k a entries).lookup k = some a := by
  induction entries with
  | nil => simp [putEntry]
  | cons entry entries ih =>
    obtain ⟨other, b⟩ := entry
    rw [putEntry]
    by_cases same : other = k
    · simp [same]
    · have different : (k == other) = false := by simpa using fun equal => same equal.symm
      rw [if_neg same, List.lookup_cons, different]
      exact ih

theorem lookup_putEntry_of_ne (other : k' ≠ k) (a : α) (entries : List (κ × α)) :
    (putEntry k a entries).lookup k' = entries.lookup k' := by
  induction entries with
  | nil =>
    have different : (k' == k) = false := by simpa using other
    simp [putEntry, List.lookup_cons, different]
  | cons entry entries ih =>
    obtain ⟨first, b⟩ := entry
    rw [putEntry]
    by_cases same : first = k
    · have different : (k' == k) = false := by simpa using other
      rw [if_pos same, same, List.lookup_cons, List.lookup_cons, different]
    · rw [if_neg same, List.lookup_cons, List.lookup_cons, ih]

theorem lookup_eq_some_iff_mem {entries : List (κ × α)} (distinct : (entries.map (·.1)).Nodup)
    (k : κ) (a : α) : entries.lookup k = some a ↔ (k, a) ∈ entries := by
  induction entries with
  | nil => simp
  | cons entry entries ih =>
    obtain ⟨first, b⟩ := entry
    obtain ⟨fresh, rest⟩ := List.nodup_cons.mp distinct
    rw [List.lookup_cons, List.mem_cons, Prod.mk.injEq]
    by_cases same : k = first
    · subst same
      have once : (k, a) ∉ entries := fun again => fresh (List.mem_map.mpr ⟨(k, a), again, rfl⟩)
      simp [once, eq_comm]
    · have different : (k == first) = false := by simpa using same
      simp [different, same, ih rest]

theorem lookup_perm {entries entries' : List (κ × α)} (same : entries'.Perm entries)
    (distinct : (entries.map (·.1)).Nodup) (k : κ) : entries'.lookup k = entries.lookup k := by
  have distinct' : (entries'.map (·.1)).Nodup := (same.map (·.1)).nodup_iff.mpr distinct
  refine Option.ext fun a => ?_
  rw [lookup_eq_some_iff_mem distinct', lookup_eq_some_iff_mem distinct, same.mem_iff]

end

theorem mem_keys_putEntry {k k' : κ} {a : α} {entries : List (κ × α)} :
    k' ∈ (putEntry k a entries).map (·.1) ↔ k' = k ∨ k' ∈ entries.map (·.1) := by
  induction entries with
  | nil => simp [putEntry]
  | cons entry entries ih =>
    obtain ⟨first, b⟩ := entry
    rw [putEntry]
    by_cases same : first = k
    · simp [same]
    · rw [if_neg same, List.map_cons, List.mem_cons, ih, List.map_cons, List.mem_cons]
      exact or_left_comm

theorem nodup_keys_putEntry {entries : List (κ × α)} (distinct : (entries.map (·.1)).Nodup) (k : κ)
    (a : α) : ((putEntry k a entries).map (·.1)).Nodup := by
  induction entries with
  | nil => simp [putEntry]
  | cons entry entries ih =>
    obtain ⟨first, b⟩ := entry
    obtain ⟨fresh, rest⟩ := List.nodup_cons.mp distinct
    rw [putEntry]
    by_cases same : first = k
    · rw [if_pos same, List.map_cons, ← same]
      exact List.nodup_cons.mpr ⟨fresh, rest⟩
    · rw [if_neg same, List.map_cons]
      refine List.nodup_cons.mpr ⟨fun again => ?_, ih rest⟩
      exact (mem_keys_putEntry.mp again).elim same fresh

end DeployPlan
