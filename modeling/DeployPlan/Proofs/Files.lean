import DeployPlan.Files
import DeployPlan.Keyed
import DeployPlan.Proofs.Text.Utf8

/-!
Written files. A directory that was added is there, and nothing that is not on the way to it has
changed; a file that was written holds what was written.
-/

namespace DeployPlan

namespace Files

variable {fs made : Files} {names others : List String}

theorem at?_of_ne_nil (named : names ≠ []) (fs : Files) :
    fs.at? names = fs.entries.lookup names := by
  cases names with
  | nil => exact absurd rfl named
  | cons name names => rfl

theorem lookup_addAll (is : List Nat) (entries : List (List String × FileEntry)) :
    (is.foldl (fun es n => putEntry (names.take (n + 1)) .directory es) entries).lookup others =
      if ∃ n ∈ is, names.take (n + 1) = others then some .directory else entries.lookup others := by
  induction is generalizing entries with
  | nil => simp
  | cons i is ih =>
    rw [List.foldl_cons, ih]
    by_cases later : ∃ n ∈ is, names.take (n + 1) = others
    · obtain ⟨n, member, same⟩ := later
      rw [if_pos ⟨n, member, same⟩, if_pos ⟨n, List.mem_cons_of_mem i member, same⟩]
    · rw [if_neg later]
      by_cases here : names.take (i + 1) = others
      · rw [if_pos ⟨i, List.mem_cons_self, here⟩, here, lookup_putEntry_self]
      · have nowhere : ¬ ∃ n ∈ i :: is, names.take (n + 1) = others := by
          rintro ⟨n, member, same⟩
          rcases List.mem_cons.mp member with rfl | behind
          · exact here same
          · exact later ⟨n, behind, same⟩
        rw [if_neg nowhere, lookup_putEntry_of_ne fun equal => here equal.symm]

theorem addDirectory_there (added : fs.addDirectory names = .ok made) :
    made.at? names = some .directory := by
  rw [addDirectory] at added
  split at added
  · rename_i there
    cases added
    exact there
  · cases added
  · rename_i absent
    split at added
    · cases added
    · cases added
      cases names with
      | nil => rfl
      | cons name names =>
        refine (lookup_addAll _ _).trans (if_pos ⟨names.length, ?_, ?_⟩)
        · simp
        · exact List.take_of_length_le (by simp)

theorem addDirectory_deeper (added : fs.addDirectory names = .ok made)
    (deeper : names.length < others.length) : made.at? others = fs.at? others := by
  have named : others ≠ [] := List.ne_nil_of_length_pos (Nat.zero_lt_of_lt deeper)
  rw [addDirectory] at added
  split at added
  · cases added
    rfl
  · cases added
  · split at added
    · cases added
    · cases added
      rw [at?_of_ne_nil named, at?_of_ne_nil named]
      refine (lookup_addAll _ _).trans (if_neg ?_)
      rintro ⟨n, -, rfl⟩
      rw [List.length_take] at deeper
      omega

theorem addDirectory_of_there (there : fs.at? names = some .directory) :
    fs.addDirectory names = .ok fs := by
  rw [addDirectory, there]

theorem exists_write (named : names ≠ []) (parent : fs.at? names.dropLast = some .directory)
    (own : fs.at? names ≠ some .directory) (bs : List UInt8) :
    ∃ written, fs.write names bs = .ok written ∧ written.at? names = some (.file bs) ∧
      ∀ others, others ≠ names → written.at? others = fs.at? others := by
  refine ⟨⟨putEntry names (.file bs) fs.entries⟩, ?_, ?_, ?_⟩
  · rw [write]
    split
    · rename_i directory
      exact absurd directory own
    · rfl
    · rw [parent]
  · rw [at?_of_ne_nil named, lookup_putEntry_self]
  · intro others different
    cases others with
    | nil => rfl
    | cons name names => exact lookup_putEntry_of_ne different _ _

theorem text_of_encoded {t : String}
    (there : fs.at? names = some (.file (Text.Utf8.encode t.toList))) :
    fs.text names = .ok t := by
  have decoded := Text.Utf8.decode?_eq_some_iff.mpr (rfl : Text.Utf8.encode t.toList = _)
  simp only [text, bytes, there, bind, Except.bind, decoded]
  exact congrArg Except.ok String.ofList_toList

end Files

end DeployPlan
