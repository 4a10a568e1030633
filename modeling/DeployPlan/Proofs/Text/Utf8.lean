import DeployPlan.Text.Utf8

/-!
UTF-8 is read as it is written: bytes are decoded to a text exactly when they are what the text is
encoded to.
-/

namespace DeployPlan.Text.Utf8

theorem toNat_ofNat {k : Nat} (small : k < 256) : (UInt8.ofNat k).toNat = k := by
  rw [UInt8.toNat_ofNat']
  exact Nat.mod_eq_of_lt small

theorem charFrom?_eq_some_iff {least n : Nat} {c : Char} :
    charFrom? least n = some c ↔ c.toNat = n ∧ least ≤ n := by
  constructor
  · intro read
    by_cases valid : n.isValidChar
    · rw [charFrom?, dif_pos valid] at read
      obtain ⟨enough, same⟩ := Option.ite_none_right_eq_some.mp read
      cases same
      exact ⟨rfl, enough⟩
    · rw [charFrom?, dif_neg valid] at read
      cases read
  · rintro ⟨rfl, enough⟩
    have valid : c.toNat.isValidChar := c.valid
    rw [charFrom?, dif_pos valid, if_pos enough]
    rfl

theorem tailBits?_eq_some_iff {b : UInt8} {k : Nat} :
    tailBits? b = some k ↔ b.toNat = 0x80 + k ∧ k < 64 := by
  rw [tailBits?]
  split
  · rw [Option.some_inj]
    omega
  · constructor
    · rintro ⟨⟩
    · omega

theorem toNat_lt (c : Char) : c.toNat < 0x110000 := by
  have valid : c.toNat.isValidChar := c.valid
  rcases valid with low | high
  · omega
  · exact high.2

/- The four forms of a character. -/

section

variable {c : Char}

theorem encodeChar_one (low : c.toNat < 0x80) : encodeChar c = [UInt8.ofNat c.toNat] := by
  rw [encodeChar]
  simp only [low, if_true]

theorem encodeChar_two (least : 0x80 ≤ c.toNat) (low : c.toNat < 0x800) :
    encodeChar c = [UInt8.ofNat (0xC0 + c.toNat / 64), UInt8.ofNat (0x80 + c.toNat % 64)] := by
  have last : Nat.pow 64 0 = 1 := rfl
  rw [encodeChar]
  simp only [Nat.not_lt.mpr least, low, last, Nat.div_one, if_true, if_false]

theorem encodeChar_three (least : 0x800 ≤ c.toNat) (low : c.toNat < 0x10000) :
    encodeChar c = [UInt8.ofNat (0xE0 + c.toNat / 4096), UInt8.ofNat (0x80 + c.toNat / 64 % 64),
      UInt8.ofNat (0x80 + c.toNat % 64)] := by
  have last : Nat.pow 64 0 = 1 := rfl
  have middle : Nat.pow 64 1 = 64 := rfl
  have one : ¬ c.toNat < 0x80 := by omega
  rw [encodeChar]
  simp only [one, Nat.not_lt.mpr least, low, last, middle, Nat.div_one, if_true, if_false]

theorem encodeChar_four (least : 0x10000 ≤ c.toNat) :
    encodeChar c = [UInt8.ofNat (0xF0 + c.toNat / 262144), UInt8.ofNat (0x80 + c.toNat / 4096 % 64),
      UInt8.ofNat (0x80 + c.toNat / 64 % 64), UInt8.ofNat (0x80 + c.toNat % 64)] := by
  have last : Nat.pow 64 0 = 1 := rfl
  have third : Nat.pow 64 1 = 64 := rfl
  have second : Nat.pow 64 2 = 4096 := rfl
  have one : ¬ c.toNat < 0x80 := by omega
  have two : ¬ c.toNat < 0x800 := by omega
  rw [encodeChar]
  simp only [one, two, Nat.not_lt.mpr least, last, third, second, Nat.div_one, if_false]

end

section

variable {a b c d : UInt8} {x y z : Nat} {rest : List UInt8}

theorem decodeChar?_one (low : a.toNat < 0x80) :
    decodeChar? (a :: rest) = (charFrom? 0 a.toNat).map (·, rest) := by
  rw [decodeChar?.eq_def]
  simp only [low, if_true]

theorem decodeChar?_two (least : 0xC0 ≤ a.toNat) (low : a.toNat < 0xE0)
    (second : tailBits? b = some y) :
    decodeChar? (a :: b :: rest) = (charFrom? 0x80 ((a.toNat - 0xC0) * 64 + y)).map (·, rest) := by
  have one : ¬ a.toNat < 0x80 := by omega
  rw [decodeChar?.eq_def]
  simp only [one, Nat.not_lt.mpr least, low, second, if_true, if_false,
    Option.bind_eq_bind, Option.bind_some]
  cases charFrom? 0x80 ((a.toNat - 0xC0) * 64 + y) <;> rfl

theorem decodeChar?_three (least : 0xE0 ≤ a.toNat) (low : a.toNat < 0xF0)
    (second : tailBits? b = some y) (third : tailBits? c = some z) :
    decodeChar? (a :: b :: c :: rest) =
      (charFrom? 0x800 (((a.toNat - 0xE0) * 64 + y) * 64 + z)).map (·, rest) := by
  have one : ¬ a.toNat < 0x80 := by omega
  have lone : ¬ a.toNat < 0xC0 := by omega
  rw [decodeChar?.eq_def]
  simp only [one, lone, Nat.not_lt.mpr least, low, second, third, if_true, if_false,
    Option.bind_eq_bind, Option.bind_some]
  cases charFrom? 0x800 (((a.toNat - 0xE0) * 64 + y) * 64 + z) <;> rfl

theorem decodeChar?_four (least : 0xF0 ≤ a.toNat) (low : a.toNat < 0xF8)
    (second : tailBits? b = some x) (third : tailBits? c = some y) (fourth : tailBits? d = some z) :
    decodeChar? (a :: b :: c :: d :: rest) =
      (charFrom? 0x10000 ((((a.toNat - 0xF0) * 64 + x) * 64 + y) * 64 + z)).map (·, rest) := by
  have one : ¬ a.toNat < 0x80 := by omega
  have lone : ¬ a.toNat < 0xC0 := by omega
  have two : ¬ a.toNat < 0xE0 := by omega
  rw [decodeChar?.eq_def]
  simp only [one, lone, two, Nat.not_lt.mpr least, low, second, third, fourth, if_true,
    if_false, Option.bind_eq_bind, Option.bind_some]
  cases charFrom? 0x10000 ((((a.toNat - 0xF0) * 64 + x) * 64 + y) * 64 + z) <;> rfl

end

theorem tailBits?_ofNat (m : Nat) : tailBits? (UInt8.ofNat (0x80 + m % 64)) = some (m % 64) := by
  have small := Nat.mod_lt m (show 0 < 64 by decide)
  exact tailBits?_eq_some_iff.mpr ⟨toNat_ofNat (by omega), small⟩

theorem decodeChar?_encodeChar (c : Char) (rest : List UInt8) :
    decodeChar? (encodeChar c ++ rest) = some (c, rest) := by
  have bound := toNat_lt c
  have whole {least n : Nat} (enough : least ≤ n) (same : c.toNat = n) :
      (charFrom? least n).map (·, rest) = some (c, rest) := by
    rw [charFrom?_eq_some_iff.mpr ⟨same, enough⟩]
    rfl
  -- By the number of bytes.
  rcases Nat.lt_or_ge c.toNat 0x80 with one | two
  · have lead : (UInt8.ofNat c.toNat).toNat = c.toNat := toNat_ofNat (by omega)
    rw [encodeChar_one one, List.cons_append, decodeChar?_one (by omega), lead]
    exact whole (Nat.zero_le _) rfl
  rcases Nat.lt_or_ge c.toNat 0x800 with low | three
  · have lead : (UInt8.ofNat (0xC0 + c.toNat / 64)).toNat = 0xC0 + c.toNat / 64 :=
      toNat_ofNat (by omega)
    rw [encodeChar_two two low]
    refine (decodeChar?_two (by omega) (by omega) (tailBits?_ofNat _)).trans ?_
    exact whole (by omega) (by omega)
  rcases Nat.lt_or_ge c.toNat 0x10000 with low | four
  · have lead : (UInt8.ofNat (0xE0 + c.toNat / 4096)).toNat = 0xE0 + c.toNat / 4096 :=
      toNat_ofNat (by omega)
    rw [encodeChar_three three low]
    refine (decodeChar?_three (by omega) (by omega) (tailBits?_ofNat _) (tailBits?_ofNat _)).trans ?_
    exact whole (by omega) (by omega)
  · have lead : (UInt8.ofNat (0xF0 + c.toNat / 262144)).toNat = 0xF0 + c.toNat / 262144 :=
      toNat_ofNat (by omega)
    rw [encodeChar_four four]
    refine (decodeChar?_four (by omega) (by omega) (tailBits?_ofNat _) (tailBits?_ofNat _)
      (tailBits?_ofNat _)).trans ?_
    exact whole (by omega) (by omega)

theorem eq_ofNat {a : UInt8} {k : Nat} (same : a.toNat = k) : a = UInt8.ofNat k :=
  same ▸ UInt8.ofNat_toNat.symm

/- A character that was read has the form of the bytes it was read from. -/

section

variable {a b₁ b₂ b₃ : UInt8} {x y z : Nat} {c : Char}

theorem encodeChar_of_one (one : a.toNat < 0x80) (whole : charFrom? 0 a.toNat = some c) :
    encodeChar c = [a] := by
  obtain ⟨number, -⟩ := charFrom?_eq_some_iff.mp whole
  rw [encodeChar_one (by omega), eq_ofNat number.symm]

theorem encodeChar_of_two (lone : ¬ a.toNat < 0xC0) (two : a.toNat < 0xE0)
    (second : tailBits? b₁ = some z) (whole : charFrom? 0x80 ((a.toNat - 0xC0) * 64 + z) = some c) :
    encodeChar c = [a, b₁] := by
  obtain ⟨number, least⟩ := charFrom?_eq_some_iff.mp whole
  obtain ⟨tail, small⟩ := tailBits?_eq_some_iff.mp second
  have lead : a.toNat = 0xC0 + c.toNat / 64 := by omega
  have last : c.toNat % 64 = z := by omega
  rw [encodeChar_two (by omega) (by omega), eq_ofNat lead, last, ← eq_ofNat tail]

theorem encodeChar_of_three (two : ¬ a.toNat < 0xE0) (three : a.toNat < 0xF0)
    (second : tailBits? b₁ = some y) (third : tailBits? b₂ = some z)
    (whole : charFrom? 0x800 (((a.toNat - 0xE0) * 64 + y) * 64 + z) = some c) :
    encodeChar c = [a, b₁, b₂] := by
  obtain ⟨number, least⟩ := charFrom?_eq_some_iff.mp whole
  obtain ⟨middle, high⟩ := tailBits?_eq_some_iff.mp second
  obtain ⟨tail, small⟩ := tailBits?_eq_some_iff.mp third
  have lead : a.toNat = 0xE0 + c.toNat / 4096 := by omega
  have inner : c.toNat / 64 % 64 = y := by omega
  have last : c.toNat % 64 = z := by omega
  rw [encodeChar_three (by omega) (by omega), eq_ofNat lead, inner, last, ← eq_ofNat middle,
    ← eq_ofNat tail]

theorem encodeChar_of_four (three : ¬ a.toNat < 0xF0)
    (second : tailBits? b₁ = some x) (third : tailBits? b₂ = some y) (fourth : tailBits? b₃ = some z)
    (whole : charFrom? 0x10000 ((((a.toNat - 0xF0) * 64 + x) * 64 + y) * 64 + z) = some c) :
    encodeChar c = [a, b₁, b₂, b₃] := by
  obtain ⟨number, least⟩ := charFrom?_eq_some_iff.mp whole
  obtain ⟨outer, wide⟩ := tailBits?_eq_some_iff.mp second
  obtain ⟨middle, high⟩ := tailBits?_eq_some_iff.mp third
  obtain ⟨tail, small⟩ := tailBits?_eq_some_iff.mp fourth
  have lead : a.toNat = 0xF0 + c.toNat / 262144 := by omega
  have upper : c.toNat / 4096 % 64 = x := by omega
  have inner : c.toNat / 64 % 64 = y := by omega
  have last : c.toNat % 64 = z := by omega
  rw [encodeChar_four (by omega), eq_ofNat lead, upper, inner, last, ← eq_ofNat outer,
    ← eq_ofNat middle, ← eq_ofNat tail]

end

theorem eq_append_of_decodeChar? {bs rest : List UInt8} {c : Char}
    (read : decodeChar? bs = some (c, rest)) : bs = encodeChar c ++ rest := by
  cases bs with
  | nil => cases read
  | cons a bs =>
    rw [decodeChar?.eq_def] at read
    simp only at read
    -- The first byte says how many follow it.
    by_cases one : a.toNat < 0x80
    · rw [if_pos one] at read
      obtain ⟨e, whole, same⟩ := Option.map_eq_some_iff.mp read
      cases same
      rw [encodeChar_of_one one whole]
      rfl
    rw [if_neg one] at read
    by_cases lone : a.toNat < 0xC0
    · rw [if_pos lone] at read
      cases read
    rw [if_neg lone] at read
    by_cases two : a.toNat < 0xE0
    · rw [if_pos two] at read
      split at read
      · simp only [Option.bind_eq_bind, Option.bind_eq_some_iff] at read
        obtain ⟨z, second, e, whole, same⟩ := read
        cases same
        rw [encodeChar_of_two lone two second whole]
        rfl
      · cases read
    rw [if_neg two] at read
    by_cases three : a.toNat < 0xF0
    · rw [if_pos three] at read
      split at read
      · simp only [Option.bind_eq_bind, Option.bind_eq_some_iff] at read
        obtain ⟨y, second, z, third, e, whole, same⟩ := read
        cases same
        rw [encodeChar_of_three two three second third whole]
        rfl
      · cases read
    rw [if_neg three] at read
    split at read
    · split at read
      · simp only [Option.bind_eq_bind, Option.bind_eq_some_iff] at read
        obtain ⟨x, second, y, third, z, fourth, e, whole, same⟩ := read
        cases same
        rw [encodeChar_of_four three second third fourth whole]
        rfl
      · cases read
    · cases read

/- Whole texts. -/

theorem encodeChar_ne_nil (c : Char) : encodeChar c ≠ [] := by
  rw [encodeChar]
  simp only
  repeat' split
  all_goals simp

theorem encode_cons (c : Char) (cs : List Char) : encode (c :: cs) = encodeChar c ++ encode cs :=
  List.flatMap_cons

theorem decodeWithin_cons (steps : Nat) (b : UInt8) (bs : List UInt8) :
    decodeWithin (steps + 1) (b :: bs) =
      match decodeChar? (b :: bs) with
      | none => none
      | some (c, rest) => (decodeWithin steps rest).map (c :: ·) := rfl

theorem decodeWithin_encode {cs : List Char} {steps : Nat} (enough : (encode cs).length ≤ steps) :
    decodeWithin steps (encode cs) = some cs := by
  -- A character takes a step and at least one byte.
  induction cs generalizing steps with
  | nil =>
    cases steps <;> rfl
  | cons c cs ih =>
    obtain ⟨b, bs, front⟩ := List.exists_cons_of_ne_nil (encodeChar_ne_nil c)
    have read := decodeChar?_encodeChar c (encode cs)
    rw [encode_cons, front, List.cons_append] at enough ⊢
    rw [front, List.cons_append] at read
    rw [List.length_cons, List.length_append] at enough
    obtain ⟨steps, rfl⟩ := Nat.exists_eq_succ_of_ne_zero (Nat.ne_of_gt (Nat.zero_lt_of_lt enough))
    rw [decodeWithin_cons, read]
    simp only
    rw [ih (by omega)]
    rfl

theorem eq_encode_of_decodeWithin {steps : Nat} {bs : List UInt8} {cs : List Char}
    (read : decodeWithin steps bs = some cs) : bs = encode cs := by
  induction steps generalizing bs cs with
  | zero =>
    cases bs with
    | nil =>
      cases read
      rfl
    | cons b bs => cases read
  | succ steps ih =>
    cases bs with
    | nil =>
      cases read
      rfl
    | cons b bs =>
      rw [decodeWithin_cons] at read
      split at read
      · cases read
      · rename_i c rest first
        obtain ⟨cs, later, rfl⟩ := Option.map_eq_some_iff.mp read
        rw [eq_append_of_decodeChar? first, ih later, encode_cons]

theorem decode?_eq_some_iff {bs : List UInt8} {cs : List Char} :
    decode? bs = some cs ↔ bs = encode cs := by
  constructor
  · exact eq_encode_of_decodeWithin
  · rintro rfl
    exact decodeWithin_encode (Nat.le_refl _)

theorem encode_injective {cs ds : List Char} (same : encode cs = encode ds) : cs = ds := by
  have first := decode?_eq_some_iff.mpr (rfl : encode cs = encode cs)
  have second := decode?_eq_some_iff.mpr same
  exact Option.some.inj (first.symm.trans second)

end DeployPlan.Text.Utf8
