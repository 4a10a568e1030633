import DeployPlan.Proofs.Json.Number
import DeployPlan.Proofs.Json.Text

/-!
The grammar of JSON text. Blanks may stand around every token, numbers and texts may be spelled in
several ways, and containers may nest as deep as they like. Every text of the grammar is read as a whole,
and as what it spells.
-/

namespace DeployPlan.Json

def Blank (cs : List Char) : Prop :=
  ∀ c ∈ cs, isSpace c = true

theorem blank_nil : Blank [] := by
  rintro c ⟨⟩

theorem blank_space : Blank [' '] :=
  List.forall_mem_singleton.mpr rfl

/-- What stands before the first item of a container, and before a later one. -/
inductive Separates : Bool → List Char → Prop
  | first {blanks : List Char} : Blank blanks → Separates true blanks
  | later {before after : List Char} :
      Blank before → Blank after → Separates false (before ++ ',' :: after)

mutual
/-- A text of a node, without blanks around it. -/
inductive SpellsNode : Node → List Char → Prop
  | null : SpellsNode .null ['n', 'u', 'l', 'l']
  | bool (b : Bool) : SpellsNode (.bool b) (writeBool b)
  | number {n : NumberText} {cs : List Char} : SpellsNumber n cs → SpellsNode (.number n) cs
  | text {s : Option (List Char)} {cs : List Char} : SpellsText s cs → SpellsNode (textNode s) cs
  | list {items : List Node} {cs : List Char} :
      SpellsNodes true items cs → SpellsNode (.list items none) ('[' :: cs)
  | object {members : List (Option String × Node)} {cs : List Char} :
      SpellsEntries true members cs → SpellsNode (.object members none) ('{' :: cs)

inductive SpellsNodes : Bool → List Node → List Char → Prop
  | nil {first : Bool} {blanks : List Char} : Blank blanks → SpellsNodes first [] (blanks ++ [']'])
  | cons {first : Bool} {n : Node} {ns : List Node} {before cs rest : List Char} :
      Separates first before → SpellsNode n cs → SpellsNodes false ns rest →
        SpellsNodes first (n :: ns) (before ++ (cs ++ rest))

inductive SpellsEntries : Bool → List (Option String × Node) → List Char → Prop
  | nil {first : Bool} {blanks : List Char} :
      Blank blanks → SpellsEntries first [] (blanks ++ ['}'])
  | cons {first : Bool} {name : Option (List Char)} {n : Node} {ms : List (Option String × Node)}
      {before key behind after cs rest : List Char} :
      Separates first before → SpellsText name key → Blank behind → Blank after →
        SpellsNode n cs → SpellsEntries false ms rest →
          SpellsEntries first ((name.map String.ofList, n) :: ms)
            (before ++ (key ++ (behind ++ ':' :: (after ++ (cs ++ rest)))))
end

inductive SpellsDocument : Node → List Char → Prop
  | mk {n : Node} {before cs after : List Char} :
      Blank before → SpellsNode n cs → Blank after → SpellsDocument n (before ++ (cs ++ after))

theorem skipSpace_append {blanks : List Char} (blank : Blank blanks) (cs : List Char) :
    skipSpace (blanks ++ cs) = skipSpace cs :=
  List.dropWhile_append_of_pos blank

theorem skipSpace_cons {c : Char} (solid : isSpace c = false) (cs : List Char) :
    skipSpace (c :: cs) = c :: cs := by
  simp [skipSpace, solid]

theorem space_of_digit {c : Char} (digit : Text.isAsciiDigit c = true) : isSpace c = false := by
  cases space : isSpace c with
  | false => rfl
  | true =>
    simp only [isSpace, Bool.or_eq_true, decide_eq_true_eq] at space
    rcases space with ((rfl | rfl) | rfl) | rfl <;> exact absurd digit (by decide)

theorem ends_cons {c : Char} (cs : List Char)
    (other : Text.isAsciiDigit c = false ∧ c ≠ '.' ∧ c ≠ 'e' ∧ c ≠ 'E') : Ends (c :: cs) := by
  rintro c ⟨⟩
  exact other

theorem ends_append {blanks cs : List Char} (blank : Blank blanks) (ends : Ends cs) :
    Ends (blanks ++ cs) := by
  cases blanks with
  | nil => exact ends
  | cons c blanks =>
    have space := blank c List.mem_cons_self
    simp only [isSpace, Bool.or_eq_true, decide_eq_true_eq] at space
    refine ends_cons _ ?_
    rcases space with ((rfl | rfl) | rfl) | rfl <;> decide

theorem Separates.ends {before : List Char} (separates : Separates false before) (cs : List Char) :
    Ends (before ++ cs) := by
  cases separates with
  | later blank _ =>
    rw [List.append_assoc]
    exact ends_append blank (ends_cons _ (by decide))

theorem SpellsNodes.ends {items : List Node} {cs : List Char}
    (spells : SpellsNodes false items cs) (rest : List Char) : Ends (cs ++ rest) := by
  cases spells with
  | nil blank =>
    rw [List.append_assoc]
    exact ends_append blank (ends_cons _ (by decide))
  | cons separates _ _ =>
    rw [List.append_assoc]
    exact separates.ends _

theorem SpellsEntries.ends {members : List (Option String × Node)} {cs : List Char}
    (spells : SpellsEntries false members cs) (rest : List Char) : Ends (cs ++ rest) := by
  cases spells with
  | nil blank =>
    rw [List.append_assoc]
    exact ends_append blank (ends_cons _ (by decide))
  | cons separates _ _ _ _ _ =>
    rw [List.append_assoc]
    exact separates.ends _

theorem SpellsNode.head {n : Node} {cs : List Char} (spells : SpellsNode n cs) :
    ∃ c tail, cs = c :: tail ∧ isSpace c = false ∧ c ≠ ']' := by
  cases spells with
  | null => exact ⟨_, _, rfl, by decide, by decide⟩
  | bool b => cases b <;> exact ⟨_, _, rfl, by decide, by decide⟩
  | text spells =>
    cases spells with
    | mk _ => exact ⟨_, _, rfl, by decide, by decide⟩
  | list _ => exact ⟨_, _, rfl, by decide, by decide⟩
  | object _ => exact ⟨_, _, rfl, by decide, by decide⟩
  | @number n _ spells =>
    cases spells with
    | @mk scale legal _ =>
      cases n.negative with
      | true => exact ⟨_, _, rfl, by decide, by decide⟩
      | false =>
        obtain ⟨d, ds, whole⟩ := List.exists_cons_of_ne_nil legal.some_whole
        have digit := legal.whole d (by rw [whole]; exact List.mem_cons_self)
        refine ⟨d, ds ++ (n.pointed ++ scale), by rw [whole]; rfl, ?_, ?_⟩
        · exact space_of_digit digit
        · rintro rfl
          revert digit
          decide

theorem SpellsNodes.length_pos {first : Bool} {items : List Node} {cs : List Char}
    (spells : SpellsNodes first items cs) : 0 < cs.length := by
  cases spells with
  | nil _ => simp
  | cons _ spells _ =>
    obtain ⟨c, tail, rfl, _⟩ := spells.head
    simp only [List.length_append, List.length_cons]
    omega

/-! One step of the reader for each thing that may come next. -/

section Steps

variable (fuel : Nat) (cs : List Char)

theorem readValue_blank {blanks : List Char} (blank : Blank blanks) :
    readValue fuel (blanks ++ cs) = readValue fuel cs := by
  cases fuel with
  | zero => rfl
  | succ fuel => rw [readValue, readValue, skipSpace_append blank]

theorem readItems_close {blanks : List Char} (blank : Blank blanks) (first : Bool) :
    readItems (fuel + 1) first (blanks ++ ']' :: cs) = ([], none, some cs) := by
  rw [readItems, skipSpace_append blank, skipSpace_cons (by decide)]
  rfl

theorem readMembers_close {blanks : List Char} (blank : Blank blanks) (first : Bool) :
    readMembers (fuel + 1) first (blanks ++ '}' :: cs) = ([], none, some cs) := by
  rw [readMembers, skipSpace_append blank, skipSpace_cons (by decide)]
  rfl

theorem readItems_next {first : Bool} {before : List Char} (separates : Separates first before)
    {c : Char} (solid : isSpace c = false) (item : c ≠ ']') :
    readItems (fuel + 1) first (before ++ c :: cs) = readItem fuel (c :: cs) := by
  cases separates with
  | first blank =>
    rw [readItems, skipSpace_append blank, skipSpace_cons solid]
    simp [item]
  | later blank after =>
    rw [List.append_assoc, List.cons_append, readItems, skipSpace_append blank,
      skipSpace_cons (by decide)]
    simp [skipSpace_append after, skipSpace_cons solid, item]

theorem readMembers_next {first : Bool} {before : List Char} (separates : Separates first before) :
    readMembers (fuel + 1) first (before ++ '"' :: cs) = readMember fuel cs := by
  have solid : isSpace '"' = false := by decide
  cases separates with
  | first blank =>
    rw [readMembers, skipSpace_append blank, skipSpace_cons solid]
    simp
  | later blank after =>
    rw [List.append_assoc, List.cons_append, readMembers, skipSpace_append blank,
      skipSpace_cons (by decide)]
    simp [skipSpace_append after, skipSpace_cons solid]

theorem readMember_name {name : Option (List Char)} {key behind after : List Char}
    (spells : SpellsChars name key) (blank : Blank behind) (spaced : Blank after) {v : Node}
    {rest : List Char} {ms : List (Option String × Node)} {last : Option (List Char)}
    (value : readValue fuel cs = (v, some rest))
    (later : readMembers fuel false rest = (ms, none, last)) :
    readMember (fuel + 1) (key ++ '"' :: (behind ++ ':' :: (after ++ cs))) =
      ((name.map String.ofList, v) :: ms, none, last) := by
  rw [readMember, spells.read_whole]
  simp only [skipSpace_append blank, skipSpace_cons (show isSpace ':' = false by decide)]
  simp [readValue_blank _ _ spaced, value, later]

theorem readItem_value {v : Node} {rest : List Char} {vs : List Node} {last : Option (List Char)}
    (value : readValue fuel cs = (v, some rest))
    (later : readItems fuel false rest = (vs, none, last)) :
    readItem (fuel + 1) cs = (v :: vs, none, last) := by
  simp [readItem, value, later]

theorem readValue_null :
    readValue (fuel + 1) ('n' :: 'u' :: 'l' :: 'l' :: cs) = (.null, some cs) := by
  rw [readValue, skipSpace_cons (by decide)]
  simp [readWord, Text.isAsciiDigit, finish, Except.map]

theorem readValue_bool (b : Bool) :
    readValue (fuel + 1) (writeBool b ++ cs) = (.bool b, some cs) := by
  cases b with
  | true =>
    rw [writeBool, if_pos rfl, List.cons_append, readValue, skipSpace_cons (by decide)]
    simp [readWord, Text.isAsciiDigit, finish, Except.map]
  | false =>
    rw [writeBool, if_neg Bool.false_ne_true, List.cons_append, readValue,
      skipSpace_cons (by decide)]
    simp [readWord, Text.isAsciiDigit, finish, Except.map]

theorem readValue_text {s : Option (List Char)} {spelled : List Char} (spells : SpellsText s spelled) :
    readValue (fuel + 1) (spelled ++ cs) = (textNode s, some cs) := by
  obtain ⟨chars⟩ := spells
  rw [List.cons_append, List.append_assoc, List.singleton_append, readValue,
    skipSpace_cons (by decide)]
  simp only [if_true, chars.read_whole]
  rfl

theorem readValue_number {n : NumberText} {spelled : List Char} (spells : SpellsNumber n spelled)
    (ends : Ends cs) : readValue (fuel + 1) (spelled ++ cs) = (.number n, some cs) := by
  cases spells with
  | @mk scale legal exponent =>
    have number := readNumber_spelled legal exponent ends
    cases sign : n.negative with
    | true =>
      rw [sign] at number
      rw [if_pos rfl, List.append_assoc, List.singleton_append, readValue,
        skipSpace_cons (by decide)]
      simp only [number]
      rfl
    | false =>
      obtain ⟨d, ds, whole⟩ := List.exists_cons_of_ne_nil legal.some_whole
      have digit := legal.whole d (by rw [whole]; exact List.mem_cons_self)
      obtain ⟨mark, bracket, brace, minus⟩ : d ≠ '"' ∧ d ≠ '[' ∧ d ≠ '{' ∧ d ≠ '-' := by
        refine ⟨?_, ?_, ?_, ?_⟩ <;> (rintro rfl; revert digit; decide)
      rw [whole, sign] at number
      rw [if_neg Bool.false_ne_true, List.nil_append, whole, List.cons_append, List.cons_append,
        readValue, skipSpace_cons (space_of_digit digit)]
      simp only [if_neg mark, if_neg bracket, if_neg brace, if_neg minus, digit, if_true]
      rw [← List.cons_append, ← List.cons_append, number, finish]

end Steps

-- The induction is on how the text is made up. An item or member takes three steps before its value
-- and has at least one character beside those of its value, hence the bounds.
mutual
theorem SpellsNode.read {n : Node} {cs : List Char} :
    SpellsNode n cs → ∀ (fuel : Nat) (rest : List Char), 3 * cs.length ≤ fuel + 1 → Ends rest →
      readValue (fuel + 1) (cs ++ rest) = (n, some rest)
  | .null, fuel, rest, _, _ => readValue_null fuel rest
  | .bool b, fuel, rest, _, _ => readValue_bool fuel rest b
  | .number spells, fuel, rest, _, ends => readValue_number fuel rest spells ends
  | .text spells, fuel, rest, _, _ => readValue_text fuel rest spells
  | .list items, fuel, rest, enough, _ => by
    have inner := items.read fuel rest (by
      rw [List.length_cons] at enough
      omega)
    rw [List.cons_append, readValue, skipSpace_cons (by decide)]
    simp [inner]
  | .object members, fuel, rest, enough, _ => by
    have inner := members.read fuel rest (by
      rw [List.length_cons] at enough
      omega)
    rw [List.cons_append, readValue, skipSpace_cons (by decide)]
    simp [inner]

theorem SpellsNodes.read {first : Bool} {ns : List Node} {cs : List Char} :
    SpellsNodes first ns cs → ∀ (fuel : Nat) (rest : List Char), 3 * cs.length ≤ fuel →
      readItems fuel first (cs ++ rest) = (ns, none, some rest)
  | .nil blank, fuel, rest, enough => by
    rw [List.length_append, List.length_singleton] at enough
    obtain ⟨fuel, rfl⟩ := Nat.exists_eq_add_of_le' (show 1 ≤ fuel by omega)
    rw [List.append_assoc, List.singleton_append, readItems_close fuel rest blank]
  | @SpellsNodes.cons _ _ _ _ cs tail separates spells later, fuel, rest, enough => by
    simp only [List.length_append] at enough
    have some_behind := later.length_pos
    obtain ⟨c, more, head, solid, item⟩ := spells.head
    have some_char : 0 < cs.length := by rw [head]; exact Nat.succ_pos _
    obtain ⟨fuel, rfl⟩ := Nat.exists_eq_add_of_le' (show 3 ≤ fuel by omega)
    have value := spells.read fuel (tail ++ rest) (by omega) (later.ends rest)
    have items := later.read (fuel + 1) rest (by omega)
    have next := readItems_next (fuel + 2) (more ++ (tail ++ rest)) separates solid item
    rw [← List.cons_append, ← head] at next
    rw [List.append_assoc, List.append_assoc, next, readItem_value _ _ value items]

theorem SpellsEntries.read {first : Bool} {ms : List (Option String × Node)} {cs : List Char} :
    SpellsEntries first ms cs → ∀ (fuel : Nat) (rest : List Char), 3 * cs.length ≤ fuel →
      readMembers fuel first (cs ++ rest) = (ms, none, some rest)
  | .nil blank, fuel, rest, enough => by
    rw [List.length_append, List.length_singleton] at enough
    obtain ⟨fuel, rfl⟩ := Nat.exists_eq_add_of_le' (show 1 ≤ fuel by omega)
    rw [List.append_assoc, List.singleton_append, readMembers_close fuel rest blank]
  | @SpellsEntries.cons _ _ _ _ _ _ behind after cs tail separates name blank spaced spells later,
      fuel, rest, enough => by
    obtain @⟨key, chars⟩ := name
    simp only [List.length_append, List.length_cons] at enough
    obtain ⟨fuel, rfl⟩ := Nat.exists_eq_add_of_le' (show 3 ≤ fuel by omega)
    have value := spells.read fuel (tail ++ rest) (by omega) (later.ends rest)
    have members := later.read (fuel + 1) rest (by omega)
    have next := readMembers_next (fuel + 2) (key ++ '"' ::
      (behind ++ ':' :: (after ++ (cs ++ (tail ++ rest))))) separates
    rw [readMember_name _ _ chars blank spaced value members] at next
    simpa using next
end

theorem SpellsDocument.read {n : Node} {cs : List Char} (spells : SpellsDocument n cs) :
    ∃ rest, Node.read cs = (n, some rest) ∧ skipSpace rest = [] := by
  cases spells with
  | @mk before cs after blank spells blanks =>
    have ends : Ends after := by simpa using ends_append blanks ends_nil
    refine ⟨after, ?_, by simpa [skipSpace] using skipSpace_append blanks []⟩
    rw [Node.read, readValue_blank _ _ blank]
    apply spells.read _ after _ ends
    simp only [List.length_append]
    omega

end DeployPlan.Json
