import Mathlib.Data.List.TakeWhile
import DeployPlan.Toml.Writing

/-!
Written texts. Whatever style a text is written in, reading gives it back. Between three marks the
text itself may hold marks, and then it matters that no three of them stand together.
-/

namespace DeployPlan.Toml

/- Single characters between quotation marks. -/

theorem charOf?_toNat (c : Char) : charOf? c.toNat = some c := by
  have valid : c.toNat.isValidChar := c.valid
  rw [charOf?, dif_pos valid]
  rfl

theorem toNat_lt_of_not_plain {c : Char} (control : ¬ isPlain c) : c.toNat < 128 := by
  simp only [isPlain, Bool.or_eq_true, Bool.and_eq_true, decide_eq_true_eq] at control
  omega

theorem readEscaped_numbered (severalLines : Bool) {c : Char} (small : c.toNat < 256)
    (rest : List Char) :
    readEscaped severalLines (.plain false) (['\\', 'u', '0', '0',
      Text.upperHexDigit (c.toNat / 16), Text.upperHexDigit (c.toNat % 16)] ++ rest) =
        prepend c (readEscaped severalLines (.plain false) rest) := by
  have zero : Text.hexValue? '0' = some 0 := by decide
  have high := Text.hexValue?_upperHexDigit (c.toNat / 16) (by omega)
  have low := Text.hexValue?_upperHexDigit (c.toNat % 16) (by omega)
  simp [readEscaped, quote, zero, high, low, Nat.div_add_mod, charOf?_toNat]

theorem readEscaped_escapedChar (severalLines : Bool) {c : Char} (other : c ≠ quote)
    (rest : List Char) :
    readEscaped severalLines (.plain false) (escapedChar severalLines c ++ rest) =
      prepend c (readEscaped severalLines (.plain false) rest) := by
  have known (n : Nat) (same : c.toNat = n) : c = Char.ofNat n := same ▸ c.ofNat_toNat.symm
  rw [escapedChar]
  split
  · rename_i tab
    subst tab
    simp [readEscaped, quote, simpleEscape?]
  split
  · rename_i newline
    subst newline
    cases severalLines <;> simp [readEscaped, quote, simpleEscape?]
  split
  · rename_i backslash
    subst backslash
    simp [readEscaped, quote, simpleEscape?]
  split
  · rename_i backslash plain
    simp [readEscaped, other, backslash, plain]
  split
  · rename_i backspace
    rw [known 8 backspace]
    simp [readEscaped, quote, simpleEscape?]
  split
  · rename_i formFeed
    rw [known 12 formFeed]
    simp [readEscaped, quote, simpleEscape?]
  split
  · rename_i return_
    subst return_
    simp [readEscaped, quote, simpleEscape?]
  · rename_i control _ _ _
    have small := toNat_lt_of_not_plain control
    exact readEscaped_numbered severalLines (by omega) rest

theorem escapedChar_cons (severalLines : Bool) {c : Char} (other : c ≠ quote) :
    ∃ d ds, escapedChar severalLines c = d :: ds ∧ d ≠ quote := by
  by_cases plain : escapedChar severalLines c = [c]
  · exact ⟨c, [], plain, other⟩
  · rw [escapedChar] at plain ⊢
    repeat' split
    all_goals first
      | exact ⟨_, _, rfl, by decide⟩
      | simp_all

/- Marks in front of a text. -/

def marksAhead (mark : Char) (cs : List Char) : Nat :=
  (cs.takeWhile (· = mark)).length

theorem marksAhead_cons_self (mark : Char) (cs : List Char) :
    marksAhead mark (mark :: cs) = marksAhead mark cs + 1 := by
  simp [marksAhead]

theorem marksAhead_of_head? {mark : Char} {cs : List Char} (other : cs.head? ≠ some mark) :
    marksAhead mark cs = 0 := by
  cases cs with
  | nil => rfl
  | cons c cs =>
    have different : c ≠ mark := fun same => other (congrArg some same)
    simp [marksAhead, different]

theorem marksAhead_replicate_append (n : Nat) {mark : Char} {rest : List Char}
    (other : rest.head? ≠ some mark) : marksAhead mark (List.replicate n mark ++ rest) = n := by
  induction n with
  | zero => exact marksAhead_of_head? other
  | succ n ih => rw [List.replicate_succ, List.cons_append, marksAhead_cons_self, ih]

theorem marksAhead_append (mark : Char) (body tail : List Char) :
    (∀ d ∈ body, d = mark) ∨ marksAhead mark (body ++ tail) = marksAhead mark body := by
  induction body with
  | nil => exact .inl (by simp)
  | cons c body ih =>
    by_cases same : c = mark
    · rcases ih with all | ahead
      · exact .inl (List.forall_mem_cons.mpr ⟨same, all⟩)
      · refine .inr ?_
        rw [same, List.cons_append, marksAhead_cons_self, marksAhead_cons_self, ahead]
    · have other (cs : List Char) : (c :: cs).head? ≠ some mark := by simpa using same
      refine .inr ?_
      rw [List.cons_append, marksAhead_of_head? (other _), marksAhead_of_head? (other _)]

theorem closing?_all {mark : Char} {n : Nat} (few : n ≤ 2) {rest : List Char}
    (apart : rest.head? ≠ some mark) :
    closing? mark (List.replicate n mark ++ (List.replicate 3 mark ++ rest)) =
      some (List.replicate n mark, rest) := by
  have joined : List.replicate n mark ++ (List.replicate 3 mark ++ rest) =
      List.replicate (n + 3) mark ++ rest := by
    rw [← List.append_assoc, List.replicate_append_replicate]
  have ahead := marksAhead_replicate_append (n + 3) apart
  have least : min (n + 3) 5 = n + 3 := Nat.min_eq_left (by omega)
  have dropped : (List.replicate (n + 3) mark ++ rest).drop (n + 3) = rest :=
    List.drop_left' List.length_replicate
  rw [marksAhead] at ahead
  simp only [closing?, joined, ahead, least, dropped]
  rw [if_pos (by omega), Nat.add_sub_cancel]

theorem closing?_few {mark : Char} {cs : List Char} (few : marksAhead mark cs ≤ 2) :
    closing? mark cs = none := by
  rw [marksAhead] at few
  rw [closing?, if_neg (by omega)]

theorem closing?_body {mark : Char} {body rest : List Char} (few : marksAhead mark body ≤ 2)
    (apart : rest.head? ≠ some mark) :
    ((∀ d ∈ body, d = mark) ∧
        closing? mark (body ++ (List.replicate 3 mark ++ rest)) = some (body, rest)) ∨
      closing? mark (body ++ (List.replicate 3 mark ++ rest)) = none := by
  rcases marksAhead_append mark body (List.replicate 3 mark ++ rest) with all | ahead
  · have marks : body = List.replicate body.length mark := List.eq_replicate_of_mem all
    have length : body.length ≤ 2 := by
      have whole := @marksAhead_replicate_append body.length mark [] (by simp)
      rw [List.append_nil, ← marks] at whole
      omega
    have ends := closing?_all length apart
    rw [← marks] at ends
    exact .inl ⟨all, ends⟩
  · exact .inr (closing?_few (ahead ▸ few))

/- Between quotation marks. -/

theorem marksAhead_escapedText {run : Nat} (few : run ≤ 2) (cs : List Char) :
    run + marksAhead quote (escapedText true run cs) ≤ 2 := by
  induction cs generalizing run with
  | nil => simpa [escapedText, marksAhead] using few
  | cons c cs ih =>
    rw [escapedText]
    by_cases mark : c = quote
    · rw [if_pos mark]
      by_cases room : run < 2
      · have later := ih (show run + 1 ≤ 2 from room)
        rw [if_pos (by simpa using room), mark, marksAhead_cons_self]
        omega
      · rw [if_neg (by simpa using room), marksAhead_of_head? (by simp [quote])]
        exact few
    · obtain ⟨d, ds, written, other⟩ := escapedChar_cons true mark
      rw [if_neg mark, written, marksAhead_of_head? (by simpa using other)]
      exact few

theorem escapedText_marks {run : Nat} {cs : List Char}
    (marks : ∀ d ∈ escapedText true run cs, d = quote) : escapedText true run cs = cs := by
  induction cs generalizing run with
  | nil => rw [escapedText]
  | cons c cs ih =>
    rw [escapedText] at marks ⊢
    by_cases mark : c = quote
    · rw [if_pos mark] at marks ⊢
      by_cases room : run < 2
      · rw [if_pos (by simpa using room)] at marks ⊢
        rw [ih fun d member => marks d (List.mem_cons_of_mem c member)]
      · rw [if_neg (by simpa using room)] at marks
        have backslash := marks '\\' List.mem_cons_self
        exact absurd backslash (by decide)
    · obtain ⟨d, ds, written, other⟩ := escapedChar_cons true mark
      rw [if_neg mark, written] at marks
      exact absurd (marks d List.mem_cons_self) other

theorem readEscaped_mark (rest : List Char) :
    readEscaped true (.plain false) (quote :: rest) =
      match closing? quote (quote :: rest) with
      | some ended => .ok ended
      | none => prepend quote (readEscaped true (.plain false) rest) := by
  cases ends : closing? quote (quote :: rest) with
  | none => simp [readEscaped, ends]
  | some ended => simp [readEscaped, ends]

theorem readEscaped_escapedMark (severalLines : Bool) (rest : List Char) :
    readEscaped severalLines (.plain false) ('\\' :: quote :: rest) =
      prepend quote (readEscaped severalLines (.plain false) rest) := by
  simp [readEscaped, quote, simpleEscape?]

theorem readEscaped_escapedLines {run : Nat} (few : run ≤ 2) (cs : List Char) {rest : List Char}
    (apart : rest.head? ≠ some quote) :
    readEscaped true (.plain false) (escapedText true run cs ++ (List.replicate 3 quote ++ rest)) =
      .ok (cs, rest) := by
  -- Of three quotation marks in a row the last is escaped; `run` counts those in front.
  induction cs generalizing run with
  | nil =>
    have ends := closing?_all (Nat.zero_le 2) apart
    rw [escapedText, List.nil_append, List.replicate_succ, List.cons_append, readEscaped_mark]
    simp only [List.replicate_succ, List.replicate_zero, List.nil_append, List.cons_append] at ends
    simp only [List.replicate_succ, List.replicate_zero, List.nil_append, List.cons_append, ends]
  | cons c cs ih =>
    by_cases mark : c = quote
    · subst mark
      by_cases room : run < 2
      · have ahead := marksAhead_escapedText few (quote :: cs)
        have closes := closing?_body (Nat.le_trans (Nat.le_add_left _ _) ahead) apart
        have step : escapedText true run (quote :: cs) = quote :: escapedText true (run + 1) cs := by
          rw [escapedText, if_pos rfl, if_pos (by simpa using room)]
        rw [step] at closes ⊢
        rw [List.cons_append] at closes ⊢
        rw [readEscaped_mark]
        rcases closes with ⟨all, ends⟩ | goes
        · have written : escapedText true (run + 1) cs = cs :=
            escapedText_marks (List.forall_mem_cons.mp all).2
          rw [ends, written]
        · rw [goes, ih (show run + 1 ≤ 2 from room)]
          rfl
      · rw [escapedText, if_pos rfl, if_neg (by simpa using room), List.cons_append,
          List.cons_append, readEscaped_escapedMark, ih (Nat.zero_le 2)]
        rfl
    · rw [escapedText, if_neg mark, List.append_assoc, readEscaped_escapedChar true mark,
        ih (Nat.zero_le 2)]
      rfl

theorem readEscaped_escapedText (run : Nat) (cs rest : List Char) :
    readEscaped false (.plain false) (escapedText false run cs ++ quote :: rest) =
      .ok (cs, rest) := by
  induction cs generalizing run with
  | nil => simp [escapedText, readEscaped]
  | cons c cs ih =>
    by_cases mark : c = quote
    · subst mark
      rw [escapedText, if_pos rfl, if_neg (by simp), List.cons_append, List.cons_append,
        readEscaped_escapedMark, ih 0]
      rfl
    · rw [escapedText, if_neg mark, List.append_assoc, readEscaped_escapedChar false mark, ih 0]
      rfl

/- Between apostrophes. -/

theorem longestRun_mono {c : Char} {m n : Nat} (fewer : m ≤ n) (cs : List Char) :
    longestRun c m cs ≤ longestRun c n cs := by
  induction cs generalizing m n with
  | nil => exact fewer
  | cons d ds ih =>
    rw [longestRun, longestRun]
    by_cases same : d = c
    · rw [if_pos same, if_pos same]
      exact ih (Nat.succ_le_succ fewer)
    · rw [if_neg same, if_neg same]
      omega

theorem longestRun_tail_le (c d : Char) (ds : List Char) :
    longestRun c 0 ds ≤ longestRun c 0 (d :: ds) := by
  rw [longestRun]
  by_cases same : d = c
  · rw [if_pos same]
    exact longestRun_mono (Nat.zero_le _) ds
  · rw [if_neg same]
    exact Nat.le_max_right _ _

theorem add_marksAhead_le_longestRun (c : Char) (n : Nat) (cs : List Char) :
    n + marksAhead c cs ≤ longestRun c n cs := by
  induction cs generalizing n with
  | nil => simp [marksAhead, longestRun]
  | cons d ds ih =>
    rw [longestRun]
    by_cases same : d = c
    · have step := ih (n + 1)
      rw [if_pos same, same, marksAhead_cons_self]
      omega
    · rw [if_neg same, marksAhead_of_head? (by simpa using same)]
      omega

theorem readLiteral_mark (rest : List Char) :
    readLiteral true (apostrophe :: rest) =
      match closing? apostrophe (apostrophe :: rest) with
      | some ended => .ok ended
      | none => prepend apostrophe (readLiteral true rest) := by
  cases ends : closing? apostrophe (apostrophe :: rest) with
  | none => simp [readLiteral, ends]
  | some ended => simp [readLiteral, ends]

theorem readLiteral_plain {severalLines : Bool} {c : Char} (other : c ≠ apostrophe)
    (plain : isPlain c ∨ severalLines ∧ c = '\n') (rest : List Char) :
    readLiteral severalLines (c :: rest) = prepend c (readLiteral severalLines rest) := by
  have stands : (isPlain c || (severalLines && decide (c = '\n'))) = true := by simpa using plain
  rw [readLiteral, if_neg other, if_pos stands]

theorem readLiteral_lines {cs rest : List Char} (plain : ∀ c ∈ cs, isPlain c ∨ c = '\n')
    (few : longestRun apostrophe 0 cs ≤ 2) (apart : rest.head? ≠ some apostrophe) :
    readLiteral true (cs ++ (List.replicate 3 apostrophe ++ rest)) = .ok (cs, rest) := by
  -- Nothing is escaped here, but no three apostrophes stand in a row.
  induction cs with
  | nil =>
    have ends := closing?_all (Nat.zero_le 2) apart
    simp only [List.replicate_succ, List.replicate_zero, List.nil_append, List.cons_append] at ends
    simp only [List.replicate_succ, List.replicate_zero, List.nil_append, List.cons_append,
      readLiteral_mark, ends]
  | cons c cs ih =>
    obtain ⟨first, later⟩ := List.forall_mem_cons.mp plain
    have below := ih later (Nat.le_trans (longestRun_tail_le apostrophe c cs) few)
    by_cases mark : c = apostrophe
    · subst mark
      have ahead := add_marksAhead_le_longestRun apostrophe 0 (apostrophe :: cs)
      have closes := closing?_body (show marksAhead apostrophe (apostrophe :: cs) ≤ 2 by omega) apart
      rw [List.cons_append] at closes ⊢
      rw [readLiteral_mark]
      rcases closes with ⟨-, ends⟩ | goes
      · rw [ends]
      · rw [goes, below]
        rfl
    · rw [List.cons_append, readLiteral_plain mark (by simpa using first), below]
      rfl

theorem readLiteral_line {cs : List Char} (plain : ∀ c ∈ cs, isPlain c ∧ c ≠ apostrophe)
    (rest : List Char) : readLiteral false (cs ++ apostrophe :: rest) = .ok (cs, rest) := by
  induction cs with
  | nil => simp [readLiteral]
  | cons c cs ih =>
    obtain ⟨first, later⟩ := List.forall_mem_cons.mp plain
    rw [List.cons_append, readLiteral_plain first.2 (.inl first.1), ih later]
    rfl

/- Styles. -/

theorem plain_of_needsEscape {cs : List Char} (none : cs.any needsEscape = false) :
    ∀ c ∈ cs, isPlain c ∨ c = '\n' := by
  intro c member
  have stands := List.any_eq_false.mp none c member
  simp only [needsEscape, Bool.and_eq_true, decide_eq_true_eq, Bool.not_eq_true'] at stands
  by_cases newline : c = '\n'
  · exact .inr newline
  · exact .inl (by simpa [newline] using stands)

theorem ne_of_longestRun_eq_zero {c : Char} {cs : List Char} (none : longestRun c 0 cs = 0) :
    ∀ d ∈ cs, d ≠ c := by
  induction cs with
  | nil => simp
  | cons d ds ih =>
    have later := Nat.le_zero.mp (none ▸ longestRun_tail_le c d ds)
    have ahead := add_marksAhead_le_longestRun c 0 (d :: ds)
    refine List.forall_mem_cons.mpr ⟨?_, ih later⟩
    rintro rfl
    rw [marksAhead_cons_self] at ahead
    omega

/-- What a text must be like to stand between apostrophes. Between quotation marks every text can. -/
def Style.Holds (cs : List Char) : Style → Prop
  | .escaped | .escapedLines => True
  | .literal => (∀ c ∈ cs, isPlain c ∨ c = '\n') ∧ '\n' ∉ cs ∧ longestRun apostrophe 0 cs = 0
  | .literalLines => (∀ c ∈ cs, isPlain c ∨ c = '\n') ∧ longestRun apostrophe 0 cs ≤ 2

theorem holds_styleOf (cs : List Char) : (styleOf cs).Holds cs := by
  simp only [styleOf]
  by_cases escape : cs.any needsEscape = true
  · rw [if_pos escape]
    split <;> trivial
  · have plain := plain_of_needsEscape (Bool.eq_false_iff.mpr escape)
    rw [if_neg escape]
    split
    · trivial
    split
    · rename_i literal
      exact ⟨plain, by simpa using literal⟩
    split
    · trivial
    split
    · rename_i few
      exact ⟨plain, few⟩
    · split <;> trivial

/- Whole texts. -/

theorem plain_of_marks {mark : Char} (known : mark = quote ∨ mark = apostrophe) : isPlain mark := by
  rcases known with rfl | rfl <;> rfl

theorem dropLineEnd_plain {cs : List Char} (plain : ∀ d ∈ cs.head?, isPlain d) :
    dropLineEnd cs = cs := by
  cases cs with
  | nil => rfl
  | cons d ds =>
    have stands : isPlain d := plain d rfl
    rw [dropLineEnd, lineEnd?]
    · rfl
    · rintro r ⟨⟩
      exact absurd stands (by decide)
    · rintro r ⟨⟩
      exact absurd stands (by decide)

theorem readText_inLine {mark : Char} {body rest : List Char} (first : body.head? ≠ some mark)
    (apart : rest.head? ≠ some mark) :
    readText mark (body ++ mark :: rest) = readInLine mark (body ++ mark :: rest) := by
  have one : (body ++ mark :: rest).take 2 ≠ [mark, mark] := by
    cases body with
    | nil => cases rest <;> simp_all
    | cons c body => simp_all
  rw [readText, if_neg one]

theorem readText_betweenThree {mark : Char} (known : mark = quote ∨ mark = apostrophe)
    {cs body : List Char} (plain : '\n' ∉ cs → ∀ d ∈ body.head?, isPlain d) (rest : List Char) :
    readText mark ((betweenThree mark cs body).tail ++ rest) =
      if mark = quote then
        readEscaped true (.plain false) (body ++ (List.replicate 3 mark ++ rest))
      else readLiteral true (body ++ (List.replicate 3 mark ++ rest)) := by
  let front : List Char := if cs.contains '\n' then ['\n'] else []
  have split : (betweenThree mark cs body).tail ++ rest =
      mark :: mark :: (front ++ (body ++ (List.replicate 3 mark ++ rest))) := by
    simp [betweenThree, front, List.replicate_succ]
  -- A line end at the front is dropped: it is the one put there, never one of the body.
  have dropped : dropLineEnd (front ++ (body ++ (List.replicate 3 mark ++ rest))) =
      body ++ (List.replicate 3 mark ++ rest) := by
    by_cases newline : '\n' ∈ cs
    · simp [front, newline, dropLineEnd, lineEnd?]
    · have nothing : front = [] := by simp [front, newline]
      rw [nothing, List.nil_append]
      refine dropLineEnd_plain ?_
      cases body with
      | nil => simpa [List.replicate_succ] using plain_of_marks known
      | cons d body => simpa using plain newline
  have two (r : List Char) : (mark :: mark :: r).take 2 = [mark, mark] := rfl
  rw [split, readText, if_pos (two _)]
  simp only [List.drop_succ_cons, List.drop_zero, dropped]

theorem plain_head?_escapedText {cs : List Char} (newline : '\n' ∉ cs) :
    ∀ d ∈ (escapedText true 0 cs).head?, isPlain d := by
  cases cs with
  | nil => simp [escapedText]
  | cons c cs =>
    have other : c ≠ '\n' := fun same => newline (same ▸ List.mem_cons_self)
    rw [escapedText]
    by_cases mark : c = quote
    · rw [if_pos mark, mark]
      simp [isPlain, quote]
    · rw [if_neg mark, escapedChar]
      repeat' split
      all_goals simp_all [isPlain]

theorem head?_escapedText (cs : List Char) : (escapedText false 0 cs).head? ≠ some quote := by
  cases cs with
  | nil => simp [escapedText]
  | cons c cs =>
    rw [escapedText]
    by_cases mark : c = quote
    · rw [if_pos mark]
      simp [quote]
    · obtain ⟨d, ds, written, other⟩ := escapedChar_cons false mark
      rw [if_neg mark, written]
      simpa using other

theorem readText_writeText (cs : List Char) {rest : List Char} (quotes : rest.head? ≠ some quote)
    (apostrophes : rest.head? ≠ some apostrophe) :
    ∃ mark tail, writeText cs = mark :: tail ∧ (mark = quote ∨ mark = apostrophe) ∧
      readText mark (tail ++ rest) = .ok (cs, rest) := by
  have holds := holds_styleOf cs
  have distinct : apostrophe ≠ quote := by decide
  rw [writeText]
  -- The style was chosen so that nothing in the text ends it early; `holds` says so.
  cases style : styleOf cs with
  | escaped =>
    refine ⟨quote, escapedText false 0 cs ++ [quote], rfl, .inl rfl, ?_⟩
    rw [List.append_assoc, List.cons_append, List.nil_append,
      readText_inLine (head?_escapedText cs) quotes, readInLine, if_pos rfl]
    exact readEscaped_escapedText 0 cs rest
  | literal =>
    rw [style] at holds
    obtain ⟨plain, line, none⟩ := holds
    have other := ne_of_longestRun_eq_zero none
    refine ⟨apostrophe, cs ++ [apostrophe], rfl, .inr rfl, ?_⟩
    rw [List.append_assoc, List.cons_append, List.nil_append, readText_inLine _ apostrophes,
      readInLine, if_neg distinct]
    · refine readLiteral_line (fun c member => ⟨?_, other c member⟩) rest
      exact (plain c member).resolve_right fun same => line (same ▸ member)
    · intro first
      exact other apostrophe (List.mem_of_mem_head? first) rfl
  | escapedLines =>
    refine ⟨quote, (betweenThree quote cs (escapedText true 0 cs)).tail, rfl, .inl rfl, ?_⟩
    rw [readText_betweenThree (.inl rfl) (fun line => plain_head?_escapedText line) rest, if_pos rfl]
    exact readEscaped_escapedLines (Nat.zero_le 2) cs quotes
  | literalLines =>
    rw [style] at holds
    obtain ⟨plain, few⟩ := holds
    have first (line : '\n' ∉ cs) : ∀ d ∈ cs.head?, isPlain d := fun d head =>
      (plain d (List.mem_of_mem_head? head)).resolve_right fun same =>
        line (same ▸ List.mem_of_mem_head? head)
    refine ⟨apostrophe, (betweenThree apostrophe cs cs).tail, rfl, .inr rfl, ?_⟩
    rw [readText_betweenThree (.inr rfl) first rest, if_neg distinct]
    exact readLiteral_lines plain few apostrophes

end DeployPlan.Toml
