import Mathlib.Data.List.Basic
import DeployPlan.Json.Node
import DeployPlan.Json.Writing

/-!
Quoted texts. A character may stand for itself or be escaped, in a short form where it has one, by its
number, or by two numbers. Whatever it is written as, reading takes it back; so a text is read up to the
mark that closes it. An escape may also name half of a pair only, and then the text as a whole is lost.
-/

namespace DeployPlan.Json

inductive FourDigits : List Char → Nat → Prop
  | mk {a b c d : Char} {w x y z : Nat} :
      Text.hexValue? a = some w → Text.hexValue? b = some x → Text.hexValue? c = some y →
        Text.hexValue? d = some z → FourDigits [a, b, c, d] (((w * 16 + x) * 16 + y) * 16 + z)

def Leads (n : Nat) : Prop :=
  0xD800 ≤ n ∧ n ≤ 0xDBFF

def Trails (n : Nat) : Prop :=
  0xDC00 ≤ n ∧ n ≤ 0xDFFF

instance (n : Nat) : Decidable (Leads n) :=
  inferInstanceAs (Decidable (_ ∧ _))

instance (n : Nat) : Decidable (Trails n) :=
  inferInstanceAs (Decidable (_ ∧ _))

def shortEscapes : List (Char × Char) :=
  [('"', '"'), ('\\', '\\'), ('/', '/'), ('b', Char.ofNat 8), ('f', Char.ofNat 12), ('n', '\n'),
    ('r', '\r'), ('t', '\t')]

inductive Escapes : Char → List Char → Prop
  | short {letter c : Char} : (letter, c) ∈ shortEscapes → Escapes c [letter]
  | number {ds : List Char} {n : Nat} :
      FourDigits ds n → ¬ Leads n → ¬ Trails n → Escapes (Char.ofNat n) ('u' :: ds)
  | pair {ds es : List Char} {m n : Nat} :
      FourDigits ds m → FourDigits es n → Leads m → Trails n →
        Escapes (Char.ofNat (0x10000 + (m - 0xD800) * 0x400 + (n - 0xDC00)))
          ('u' :: (ds ++ '\\' :: 'u' :: es))

/-- The texts of some characters, without the marks around them. What holds half of a pair is the text of
no characters. A first half that a second one follows is no half but a pair. -/
inductive SpellsChars : Option (List Char) → List Char → Prop
  | nil : SpellsChars (some []) []
  | plain {c : Char} {s : Option (List Char)} {cs : List Char} :
      c ≠ '"' → c ≠ '\\' → 32 ≤ c.toNat → SpellsChars s cs → SpellsChars (s.map (c :: ·)) (c :: cs)
  | escape {c : Char} {e : List Char} {s : Option (List Char)} {cs : List Char} :
      Escapes c e → SpellsChars s cs → SpellsChars (s.map (c :: ·)) ('\\' :: (e ++ cs))
  | second {ds : List Char} {n : Nat} {s : Option (List Char)} {cs : List Char} :
      FourDigits ds n → Trails n → SpellsChars s cs → SpellsChars none ('\\' :: 'u' :: (ds ++ cs))
  | first {ds : List Char} {n : Nat} {s : Option (List Char)} {cs : List Char} :
      FourDigits ds n → Leads n → SpellsChars s cs →
        (∀ es m more, FourDigits es m → cs = '\\' :: 'u' :: (es ++ more) → ¬ Trails m) →
          SpellsChars none ('\\' :: 'u' :: (ds ++ cs))

inductive SpellsText : Option (List Char) → List Char → Prop
  | mk {s : Option (List Char)} {cs : List Char} : SpellsChars s cs → SpellsText s ('"' :: (cs ++ ['"']))

theorem four_le_utf8Size (a b c d : Char) :
    4 ≤ [a, b, c, d].foldl (fun n c => n + c.utf8Size) 0 := by
  have ha := a.utf8Size_pos
  have hb := b.utf8Size_pos
  have hc := c.utf8Size_pos
  have hd := d.utf8Size_pos
  simp only [List.foldl_cons, List.foldl_nil]
  omega

/- Escapes are read as what they stand for. -/

section Escapes

variable {ds es : List Char} {m n : Nat}

theorem FourDigits.read (digits : FourDigits ds n) (rest : List Char) :
    fourHex (ds ++ rest) = .ok (n, rest) := by
  cases digits with
  | @mk a b c d _ _ _ _ ha hb hc hd =>
    have enough := four_le_utf8Size a b c d
    simp only [List.cons_append, List.nil_append]
    rw [fourHex, if_neg (by simpa using enough)]
    simp only [ha, hb, hc, hd]

theorem readEscape_number (digits : FourDigits ds n) (rest : List Char) :
    readEscape ('u' :: (ds ++ rest)) =
      if Trails n then .half rest
      else if Leads n then pairedEscape n rest
      else .char (Char.ofNat n) rest := by
  rw [readEscape, digits.read]
  rfl

theorem readEscape_short : ∀ e ∈ shortEscapes, ∀ rest : List Char,
    readEscape (e.1 :: rest) = .char e.2 rest := by
  simp [shortEscapes, readEscape]

theorem pairedEscape_pair (digits : FourDigits es n) (trails : Trails n) (rest : List Char) :
    pairedEscape m ('\\' :: 'u' :: (es ++ rest)) =
      .char (Char.ofNat (0x10000 + (m - 0xD800) * 0x400 + (n - 0xDC00))) rest := by
  rw [pairedEscape, digits.read]
  exact if_pos trails

theorem Escapes.read {c : Char} {e : List Char} (escapes : Escapes c e) (rest : List Char) :
    readEscape (e ++ rest) = .char c rest := by
  cases escapes with
  | short known => exact readEscape_short _ known rest
  | number digits noLead noTrail =>
    rw [List.cons_append, readEscape_number digits, if_neg noTrail, if_neg noLead]
  | @pair ds es m n digits more leads trails =>
    have other : ¬ Trails m := by
      unfold Leads Trails at *
      omega
    rw [List.cons_append, List.append_assoc, List.cons_append, List.cons_append,
      readEscape_number digits, if_neg other, if_pos leads, pairedEscape_pair more trails]

theorem pairedEscape_alone {s : Option (List Char)} {cs : List Char} (spells : SpellsChars s cs)
    (alone : ∀ es m more, FourDigits es m → cs = '\\' :: 'u' :: (es ++ more) → ¬ Trails m)
    (rest : List Char) :
    pairedEscape n (cs ++ '"' :: rest) = .half (cs ++ '"' :: rest) := by
  -- Nothing but an escape by number could be the other half.
  have numbered : ∀ {es : List Char} {m : Nat} (more : List Char), FourDigits es m → ¬ Trails m →
      pairedEscape n ('\\' :: 'u' :: (es ++ more)) = .half ('\\' :: 'u' :: (es ++ more)) := by
    intro es m more digits other
    rw [pairedEscape, digits.read]
    exact if_neg other
  cases spells with
  | nil => rfl
  | @plain c _ cs _ other _ _ =>
    rw [List.cons_append, pairedEscape.eq_def]
    split <;> simp_all
  | @escape c e _ cs escapes _ =>
    cases escapes with
    | @short letter _ known =>
      have other : letter ≠ 'u' := by
        rintro rfl
        simp [shortEscapes] at known
      rw [pairedEscape.eq_def]
      simp [other]
    | number digits _ noTrail => simpa using numbered _ digits noTrail
    | @pair ds es m k digits _ leads _ =>
      have other : ¬ Trails m := by
        unfold Leads Trails at *
        omega
      simpa using numbered ('\\' :: 'u' :: (es ++ (cs ++ '"' :: rest))) digits other
  | second digits trails _ => exact absurd trails (alone _ _ _ digits rfl)
  | first digits leads _ _ =>
    have other := alone _ _ _ digits rfl
    simpa using numbered _ digits other

end Escapes

section Reading

variable {s : Option (List Char)} {cs : List Char} {fuel : Nat}

theorem readText_plain {c : Char} (noMark : c ≠ '"') (noEscape : c ≠ '\\') (visible : 32 ≤ c.toNat)
    (acc : Option (List Char)) (rest : List Char) :
    readText (fuel + 1) acc (c :: rest) = readText fuel (acc.map (c :: ·)) rest := by
  rw [readText, if_neg noMark, if_neg noEscape, if_neg (Nat.not_lt.mpr visible)]

theorem readText_escape {c : Char} {escape rest : List Char} (read : readEscape escape = .char c rest)
    (acc : Option (List Char)) :
    readText (fuel + 1) acc ('\\' :: escape) = readText fuel (acc.map (c :: ·)) rest := by
  rw [readText, if_neg (by decide), if_pos rfl, read]

theorem readText_half {escape rest : List Char} (read : readEscape escape = .half rest)
    (acc : Option (List Char)) :
    readText (fuel + 1) acc ('\\' :: escape) = readText fuel none rest := by
  rw [readText, if_neg (by decide), if_pos rfl, read]

theorem SpellsChars.read (spells : SpellsChars s cs) (enough : cs.length < fuel)
    (acc : Option (List Char)) (rest : List Char) :
    readText fuel acc (cs ++ '"' :: rest) =
      .ok (acc.bind fun before => s.map (before.reverse ++ ·), rest) := by
  induction spells generalizing fuel acc with
  | nil =>
    obtain ⟨fuel, rfl⟩ := Nat.exists_eq_succ_of_ne_zero (Nat.ne_of_gt enough)
    cases acc <;> simp [readText]
  | @plain c s cs noMark noEscape visible _ ih =>
    obtain ⟨fuel, rfl⟩ := Nat.exists_eq_succ_of_ne_zero (Nat.ne_of_gt (Nat.zero_lt_of_lt enough))
    rw [List.cons_append, readText_plain noMark noEscape visible, ih (Nat.lt_of_succ_lt_succ enough)]
    cases acc <;> cases s <;> simp
  | @escape c e s cs escapes _ ih =>
    obtain ⟨fuel, rfl⟩ := Nat.exists_eq_succ_of_ne_zero (Nat.ne_of_gt (Nat.zero_lt_of_lt enough))
    have shorter : cs.length < fuel := by
      simp only [List.length_cons, List.length_append] at enough
      omega
    have read := escapes.read (cs ++ '"' :: rest)
    rw [List.cons_append, List.append_assoc, readText_escape read, ih shorter]
    cases acc <;> cases s <;> simp
  -- Half of a pair: the text is lost, and what follows is read for its end only.
  | @second ds n s cs digits trails _ ih =>
    obtain ⟨fuel, rfl⟩ := Nat.exists_eq_succ_of_ne_zero (Nat.ne_of_gt (Nat.zero_lt_of_lt enough))
    have shorter : cs.length < fuel := by
      simp only [List.length_cons, List.length_append] at enough
      omega
    have read := readEscape_number digits (cs ++ '"' :: rest)
    rw [if_pos trails] at read
    rw [List.cons_append, List.cons_append, List.append_assoc, readText_half read, ih shorter]
    cases acc <;> rfl
  | @first ds n s cs digits leads later alone ih =>
    obtain ⟨fuel, rfl⟩ := Nat.exists_eq_succ_of_ne_zero (Nat.ne_of_gt (Nat.zero_lt_of_lt enough))
    have shorter : cs.length < fuel := by
      simp only [List.length_cons, List.length_append] at enough
      omega
    have other : ¬ Trails n := by
      unfold Leads Trails at *
      omega
    have read := readEscape_number digits (cs ++ '"' :: rest)
    rw [if_neg other, if_pos leads, pairedEscape_alone later alone] at read
    rw [List.cons_append, List.cons_append, List.append_assoc, readText_half read, ih shorter]
    cases acc <;> rfl

theorem SpellsChars.read_whole (spells : SpellsChars s cs) (rest : List Char) :
    readText ((cs ++ '"' :: rest).length + 1) (some []) (cs ++ '"' :: rest) = .ok (s, rest) := by
  rw [spells.read (by simp only [List.length_append]; omega)]
  cases s <;> rfl

end Reading

/- What is written is a text of the characters. -/

theorem fourDigits_control {n : Nat} (control : n < 32) :
    FourDigits ['0', '0', Text.lowerHexDigit (n / 16), Text.lowerHexDigit (n % 16)] n := by
  have zero : Text.hexValue? '0' = some 0 := by decide
  have digits := FourDigits.mk zero zero (Text.hexValue?_lowerHexDigit (n / 16) (by omega))
    (Text.hexValue?_lowerHexDigit (n % 16) (Nat.mod_lt n (by decide)))
  rwa [show ((0 * 16 + 0) * 16 + n / 16) * 16 + n % 16 = n by omega] at digits

theorem escapes_control {c : Char} (control : c.toNat < 32) :
    Escapes c ['u', '0', '0', Text.lowerHexDigit (c.toNat / 16), Text.lowerHexDigit (c.toNat % 16)] := by
  have escapes := Escapes.number (fourDigits_control control) (by unfold Leads; omega)
    (by unfold Trails; omega)
  rwa [Char.ofNat_toNat] at escapes

theorem spellsChars_escaped {s : Option (List Char)} {cs : List Char} (c : Char)
    (spells : SpellsChars s cs) : SpellsChars (s.map (c :: ·)) (escaped c ++ cs) := by
  have known : ∀ n, c.toNat = n → c = Char.ofNat n := by
    rintro n rfl
    exact (Char.ofNat_toNat c).symm
  have short : ∀ letter, (letter, c) ∈ shortEscapes →
      SpellsChars (s.map (c :: ·)) (['\\', letter] ++ cs) := fun letter short =>
    .escape (.short short) spells
  rw [escaped]
  split
  · rename_i mark
    exact short _ (by simp [mark, shortEscapes])
  split
  · rename_i backslash
    exact short _ (by simp [backslash, shortEscapes])
  split
  · rename_i backspace
    exact short _ (by simp [known 8 backspace, shortEscapes])
  split
  · rename_i formFeed
    exact short _ (by simp [known 12 formFeed, shortEscapes])
  split
  · rename_i newline
    exact short _ (by simp [newline, shortEscapes])
  split
  · rename_i return_
    exact short _ (by simp [return_, shortEscapes])
  split
  · rename_i tab
    exact short _ (by simp [tab, shortEscapes])
  split
  · rename_i control
    exact .escape (escapes_control control) spells
  · rename_i mark backslash _ _ _ _ _ visible
    exact .plain mark backslash (Nat.not_lt.mp visible) spells

theorem spellsChars_escapedChars (cs : List Char) : SpellsChars (some cs) (escapedChars cs) := by
  induction cs with
  | nil => exact .nil
  | cons c cs ih => exact spellsChars_escaped c ih

theorem spellsText_quoted (s : String) : SpellsText (some s.toList) (quoted s) :=
  .mk (spellsChars_escapedChars s.toList)

end DeployPlan.Json
