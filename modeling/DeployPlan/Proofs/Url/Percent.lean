import DeployPlan.Proofs.Text.Utf8
import DeployPlan.Url.Percent

/-!
Percent encoding and back. Decoding gives the bytes of what was encoded, provided that percent signs were
encoded too; what is written holds none of the characters that were to be encoded.
-/

namespace DeployPlan.Url

open Text (Utf8.encode Utf8.encodeChar)

theorem percentDecode_cons_of_ne {c : Char} (plain : c ≠ '%') (rest : List Char) :
    percentDecode (c :: rest) = Utf8.encodeChar c ++ percentDecode rest := by
  rw [percentDecode.eq_def]
  split
  · rename_i impossible
    cases impossible
  · rename_i a b same
    obtain ⟨rfl, -⟩ := List.cons.inj same
    exact absurd rfl plain
  · rename_i same
    obtain ⟨rfl, rfl⟩ := List.cons.inj same
    rfl

theorem percentDecode_encodedByte (b : UInt8) (rest : List Char) :
    percentDecode (encodedByte b ++ rest) = b :: percentDecode rest := by
  have small : b.toNat < 256 := b.toNat_lt
  have value : UInt8.ofNat (16 * (b.toNat / 16) + b.toNat % 16) = b := by
    rw [Nat.div_add_mod, UInt8.ofNat_toNat]
  simp only [encodedByte, List.cons_append, List.nil_append, percentDecode,
    Text.hexValue?_upperHexDigit (b.toNat / 16) (by omega),
    Text.hexValue?_upperHexDigit (b.toNat % 16) (by omega), value]

theorem percentDecode_encodedBytes (bs : List UInt8) (rest : List Char) :
    percentDecode (bs.flatMap encodedByte ++ rest) = bs ++ percentDecode rest := by
  induction bs with
  | nil => rfl
  | cons b bs ih =>
    rw [List.flatMap_cons, List.append_assoc, percentDecode_encodedByte, ih, List.cons_append]

theorem percentDecode_percentEncode {set : EncodeSet} (escaped : set '%' = true) (cs : List Char) :
    percentDecode (percentEncode set cs) = Utf8.encode cs := by
  induction cs with
  | nil => rfl
  | cons c cs ih =>
    rw [Text.Utf8.encode_cons, ← ih, percentEncode, List.flatMap_cons, ← percentEncode, encodedChar]
    split
    · exact percentDecode_encodedBytes _ _
    · rename_i plain
      refine percentDecode_cons_of_ne ?_ _
      rintro rfl
      exact plain escaped

/-! What is written -/

theorem mem_encodedByte {b : UInt8} {x : Char} (member : x ∈ encodedByte b) :
    x = '%' ∨ ∃ n, n < 16 ∧ x = Text.upperHexDigit n := by
  have small : b.toNat < 256 := b.toNat_lt
  simp only [encodedByte, List.mem_cons, List.not_mem_nil, or_false] at member
  rcases member with rfl | rfl | rfl
  · exact .inl rfl
  · exact .inr ⟨_, by omega, rfl⟩
  · exact .inr ⟨_, by omega, rfl⟩

theorem mem_encodedChar {set : EncodeSet} {c x : Char} (member : x ∈ encodedChar set c) :
    set x = false ∨ x = '%' ∨ ∃ n, n < 16 ∧ x = Text.upperHexDigit n := by
  rw [encodedChar] at member
  split at member
  · obtain ⟨b, -, member⟩ := List.mem_flatMap.mp member
    exact .inr (mem_encodedByte member)
  · rename_i plain
    cases List.mem_singleton.mp member
    exact .inl (eq_false_of_ne_true plain)

theorem mem_percentEncode {set : EncodeSet} {cs : List Char} {x : Char}
    (member : x ∈ percentEncode set cs) :
    set x = false ∨ x = '%' ∨ ∃ n, n < 16 ∧ x = Text.upperHexDigit n := by
  obtain ⟨c, -, member⟩ := List.mem_flatMap.mp member
  exact mem_encodedChar member

theorem percentEncode_of_forall {set : EncodeSet} {cs : List Char} (plain : ∀ c ∈ cs, set c = false) :
    percentEncode set cs = cs := by
  induction cs with
  | nil => rfl
  | cons c cs ih =>
    obtain ⟨first, later⟩ := List.forall_mem_cons.mp plain
    rw [percentEncode, List.flatMap_cons, ← percentEncode, ih later, encodedChar, first]
    rfl

end DeployPlan.Url
