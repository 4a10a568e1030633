import Mathlib.Data.List.TakeWhile
import DeployPlan.Proofs.Toml.Number
import DeployPlan.Proofs.Toml.Text
import DeployPlan.Toml.Decoding

/-!
Written sections. A header and the pairs under it are read line by line, and a draft of the tables
takes them up one by one.
-/

namespace DeployPlan.Toml

open Json (Node)

variable {name : String} {value rest mid cs : List Char} {d e f : Draft}

/-- Reading goes on from `cs` to `rest`, and what it meets leads from one draft to the other. -/
def Adds (cs rest : List Char) (d e : Draft) : Prop :=
  ∀ fuel, cs.length < fuel → ∃ fuel' ss, rest.length < fuel' ∧
    statements fuel cs = (ss ++ (statements fuel' rest).1, (statements fuel' rest).2) ∧
      ∀ more, build d (ss ++ more) = build e more

theorem Adds.trans (first : Adds cs mid d e) (second : Adds mid rest e f) : Adds cs rest d f := by
  intro fuel enough
  obtain ⟨fuel', ss, enough', read, built⟩ := first fuel enough
  obtain ⟨fuel'', ss', enough'', read', built'⟩ := second fuel' enough'
  refine ⟨fuel'', ss ++ ss', enough'', ?_, fun more => ?_⟩
  · rw [read, read', List.append_assoc]
  · rw [List.append_assoc, built, built']

theorem Adds.read (adds : Adds cs [] {} d) (mark : dropOrderMark cs = cs) :
    read cs = .ok d.root := by
  obtain ⟨fuel, ss, enough, whole, built⟩ := adds (cs.length + 1) (Nat.lt_succ_self _)
  obtain ⟨fuel, rfl⟩ := Nat.exists_eq_succ_of_ne_zero (Nat.ne_of_gt enough)
  have none : statements (fuel + 1) [] = ([], Option.none) := rfl
  have final : build {} ss = .ok d := by
    have last := built []
    rw [List.append_nil] at last
    exact last
  rw [none, List.append_nil] at whole
  simp only [Toml.read, mark, whole, final]
  rfl

theorem adds_statement {c : Char} {r : List Char} {s : Statement} (gap : isGap c = false)
    (starts : startsNoStatement c r = false) (read : readStatement (c :: r) = .ok (s, rest))
    (shorter : rest.length ≤ r.length) (added : d.add s = some e) : Adds (c :: r) rest d e := by
  intro fuel enough
  obtain ⟨fuel, rfl⟩ := Nat.exists_eq_succ_of_ne_zero (Nat.ne_of_gt (Nat.zero_lt_of_lt enough))
  rw [List.length_cons] at enough
  refine ⟨fuel, [s], by omega, ?_, fun more => ?_⟩
  · have here : skipGaps (c :: r) = c :: r := by simp [skipGaps, gap]
    simp [statements, here, starts, read]
  · simp [build, added]

theorem adds_nothing (rest : List Char) (d : Draft) : Adds rest rest d d := fun fuel enough =>
  ⟨fuel, [], enough, rfl, fun _ => rfl⟩

theorem adds_blank (rest : List Char) (d : Draft) : Adds ('\n' :: rest) rest d d := by
  intro fuel enough
  obtain ⟨fuel, rfl⟩ := Nat.exists_eq_succ_of_ne_zero (Nat.ne_of_gt (Nat.zero_lt_of_lt enough))
  rw [List.length_cons] at enough
  refine ⟨fuel, [], by omega, rfl, fun more => rfl⟩

/- Names. -/

def Bare (name : String) : Prop :=
  name.toList ≠ [] ∧ ∀ c ∈ name.toList, isBareKeyChar c = true

instance : Decidable (Bare name) :=
  decidable_of_iff ((!name.toList.isEmpty && name.toList.all isBareKeyChar) = true)
    (by simp [Bare])

theorem ne_of_bare {c d : Char} (bare : isBareKeyChar c = true) (other : isBareKeyChar d = false) :
    c ≠ d := by
  rintro rfl
  rw [bare] at other
  cases other

theorem Bare.exists_cons (bare : Bare name) :
    ∃ c cs, name.toList = c :: cs ∧ isBareKeyChar c = true := by
  obtain ⟨some, all⟩ := bare
  obtain ⟨c, cs, chars⟩ := List.exists_cons_of_ne_nil some
  exact ⟨c, cs, chars, all c (chars ▸ List.mem_cons_self)⟩

theorem readName_bare (bare : Bare name) (apart : ∀ c ∈ rest.head?, isBareKeyChar c = false) :
    readName (name.toList ++ rest) = .ok (name.toList, rest) := by
  obtain ⟨c, cs, chars, first⟩ := bare.exists_cons
  have quotes : c ≠ quote := ne_of_bare first (by decide)
  have apostrophes : c ≠ apostrophe := ne_of_bare first (by decide)
  have all := bare.2
  have taken : (name.toList ++ rest).takeWhile isBareKeyChar = name.toList := by
    rw [List.takeWhile_append_of_pos all]
    cases rest with
    | nil => simp
    | cons c rest => simp [apart c rfl]
  have dropped : (name.toList ++ rest).dropWhile isBareKeyChar = rest := by
    rw [List.dropWhile_append_of_pos all]
    cases rest with
    | nil => simp
    | cons c rest => simp [apart c rfl]
  rw [chars, List.cons_append] at taken dropped ⊢
  simp [readName, quotes, apostrophes, first, taken, dropped]

theorem readKey_bare (bare : Bare name) (apart : ∀ c ∈ rest.head?, isBareKeyChar c = false)
    (last : (skipGaps rest).head? ≠ some '.') :
    ∃ m, readKey (depthLimit - 1) (name.toList ++ rest) =
      .ok (⟨[], ⟨name, m⟩⟩, skipGaps rest) := by
  obtain ⟨c, cs, chars, first⟩ := bare.exists_cons
  have start : skipGaps (name.toList ++ rest) = name.toList ++ rest := by
    have space : c ≠ ' ' := ne_of_bare first (by decide)
    have tab : c ≠ '\t' := ne_of_bare first (by decide)
    simp [chars, skipGaps, isGap, space, tab]
  have key : String.ofList name.toList = name := String.ofList_toList
  have room : depthLimit - 1 = 78 + 1 := rfl
  refine ⟨(name.toList ++ rest).length, ?_⟩
  rw [room, readKey]
  simp only [start, readName_bare bare apart, bind, Except.bind, key]
  split
  · rename_i point
    rw [point] at last
    exact absurd rfl last
  · rfl

/- Lines. -/

/-- Up to the end of the line this is read as that value. -/
def Reads (value : List Char) (v : Tree) : Prop :=
  (∀ c ∈ value.head?, isGap c = false) ∧ value ≠ [] ∧
    ∀ rest, readValue (depthLimit - 1) (value ++ '\n' :: rest) = .ok (v, '\n' :: rest)

theorem reads_text (s : String) : Reads (writeText s.toList) (.text s) := by
  refine ⟨?_, ?_, fun rest => ?_⟩
  · obtain ⟨mark, tail, written, known, -⟩ := @readText_writeText s.toList [] (by simp) (by simp)
    rw [written]
    rintro c ⟨⟩
    rcases known with rfl | rfl <;> decide
  · obtain ⟨mark, tail, written, -⟩ := @readText_writeText s.toList [] (by simp) (by simp)
    rw [written]
    exact List.cons_ne_nil mark tail
  · obtain ⟨mark, tail, written, known, read⟩ :=
      @readText_writeText s.toList ('\n' :: rest) (by simp [quote]) (by simp; decide)
    rw [written, List.cons_append, readValue.eq_def]
    simp only [if_pos known, read]
    simp only [Except.map, String.ofList_toList]

theorem reads_digits {n : Nat} (small : n ≤ integerLimit) :
    Reads (Number.digits n) (.integer n) := by
  obtain ⟨d, ds, chars⟩ := List.exists_cons_of_ne_nil (Json.digits_ne_nil n)
  have digit : Text.isAsciiDigit d = true := Json.digits_digits n d (chars ▸ List.mem_cons_self)
  have other {c : Char} (no : Text.isAsciiDigit c = false) : d ≠ c := by
    rintro rfl
    rw [digit] at no
    cases no
  have space : d ≠ ' ' := other (by decide)
  have tab : d ≠ '\t' := other (by decide)
  have quotes : d ≠ quote := other (by decide)
  have apostrophes : d ≠ apostrophe := other (by decide)
  have bracket : d ≠ '[' := other (by decide)
  have brace : d ≠ '{' := other (by decide)
  refine ⟨?_, Json.digits_ne_nil n, fun rest => ?_⟩
  · rw [chars]
    rintro c ⟨⟩
    simp [isGap, space, tab]
  · have scalar := @scalar?_digits rest n small
    rw [chars, List.cons_append] at scalar ⊢
    rw [readValue.eq_def]
    simp only [quotes, apostrophes, bracket, brace, scalar, or_self, if_false]

theorem readHeader_bare (bare : Bare name) (mark : Mark) (rest : List Char) :
    ∃ m, readHeader mark (name.toList ++ ']' :: rest) =
      .ok (.header mark ⟨[], ⟨name, m⟩⟩, rest) := by
  have apart : ∀ c ∈ (']' :: rest).head?, isBareKeyChar c = false := by
    rintro c ⟨⟩
    decide
  have after : skipGaps (']' :: rest) = ']' :: rest := by simp [skipGaps, isGap]
  obtain ⟨m, key⟩ := readKey_bare bare apart (by simp [after])
  obtain ⟨c, cs, chars, first⟩ := bare.exists_cons
  have bracket : c ≠ '[' := ne_of_bare first (by decide)
  rw [after, chars, List.cons_append] at key
  refine ⟨m, ?_⟩
  rw [chars, List.cons_append, readHeader]
  · simp only [key, bind, Except.bind]
    rfl
  · rintro r ⟨⟩
    exact bracket rfl

theorem readPair_bare {v : Tree} (bare : Bare name) (reads : Reads value v) (rest : List Char) :
    ∃ m k, readPair (readValue (depthLimit - 1))
      (name.toList ++ (' ' :: '=' :: ' ' :: (value ++ '\n' :: rest))) =
        .ok ((⟨[], ⟨name, m⟩⟩, k, v), '\n' :: rest) := by
  have apart : ∀ c ∈ (' ' :: '=' :: ' ' :: (value ++ '\n' :: rest)).head?,
      isBareKeyChar c = false := by
    rintro c ⟨⟩
    decide
  have after : skipGaps (' ' :: '=' :: ' ' :: (value ++ '\n' :: rest)) =
      '=' :: ' ' :: (value ++ '\n' :: rest) := by
    simp [skipGaps, isGap]
  obtain ⟨m, key⟩ := readKey_bare bare apart (by simp [after])
  obtain ⟨gap, some, read⟩ := reads
  have start : skipGaps (' ' :: (value ++ '\n' :: rest)) = value ++ '\n' :: rest := by
    obtain ⟨c, cs, rfl⟩ := List.exists_cons_of_ne_nil some
    have first : isGap c = false := gap c rfl
    have space : isGap ' ' = true := by decide
    simp [skipGaps, first, space]
  refine ⟨m, (value ++ '\n' :: rest).length, ?_⟩
  simp only [readPair, key, after, start, read, bind, Except.bind]
  rfl

theorem endLine_newline (rest : List Char) : endLine ('\n' :: rest) = .ok rest := by
  have line : isGap '\n' = false := by decide
  simp [endLine, skipGaps, line, closeLine, lineEnd?]

/- Drafts. -/

def entries (t : Table) : List (String × Node) :=
  t.map fun entry => (entry.1, entry.2.2.node)

def object (said : List (String × Node)) : Node :=
  .object (said.map fun entry => (some entry.1, entry.2)) none

theorem node_table (origin : Origin) (t : Table) : (Tree.table origin t).node = object (entries t) := by
  have nodes : entryNodes t = t.map fun entry => (some entry.1, entry.2.2.node) := by
    induction t with
    | nil => rfl
    | cons entry t ih =>
      obtain ⟨name, mark, v⟩ := entry
      rw [entryNodes, ih, List.map_cons]
  rw [Tree.node, nodes, object, entries, List.map_map]
  rfl

theorem lookup_fresh {t : Table} (fresh : name ∉ (entries t).map Prod.fst) :
    t.lookup name = none := by
  induction t with
  | nil => rfl
  | cons entry t ih =>
    obtain ⟨other, v⟩ := entry
    simp only [entries, List.map_cons, List.mem_cons, not_or] at fresh
    have different : (name == other) = false := by simpa using fresh.1
    rw [List.lookup_cons, different]
    exact ih fresh.2

theorem lookup_last {t : Table} (fresh : name ∉ (entries t).map Prod.fst) (v : Mark × Tree) :
    (t ++ [(name, v)]).lookup name = some v := by
  rw [List.lookup_append, lookup_fresh fresh]
  simp

theorem putEntry_last {t : Table} (fresh : name ∉ (entries t).map Prod.fst) (v w : Mark × Tree) :
    putEntry name w (t ++ [(name, v)]) = t ++ [(name, w)] := by
  induction t with
  | nil => simp [putEntry]
  | cons entry t ih =>
    obtain ⟨other, v⟩ := entry
    simp only [entries, List.map_cons, List.mem_cons, not_or] at fresh
    have different : other ≠ name := fun same => fresh.1 same.symm
    rw [List.cons_append, putEntry, if_neg different, ih fresh.2, List.cons_append]

/-- Pairs go to the last table; `front` is what stands before it, and `inner` what it says. -/
def Draft.Open (d : Draft) (front : List (String × Node)) (name : String)
    (inner : List (String × Node)) : Prop :=
  ∃ before mark key pairs, d.root = before ++ [(name, mark, .table .header pairs)] ∧
    d.here = [⟨name, key⟩] ∧ entries before = front ∧ entries pairs = inner

variable {front inner : List (String × Node)}

theorem Draft.Open.entries (opened : d.Open front name inner) :
    entries d.root = front ++ [(name, object inner)] := by
  obtain ⟨before, mark, key, pairs, root, -, rfl, rfl⟩ := opened
  rw [root, Toml.entries, List.map_append, List.map_singleton, node_table]
  rfl

theorem add_header (fresh : name ∉ (entries d.root).map Prod.fst) (mark m : Mark) :
    ∃ e, d.add (.header mark ⟨[], ⟨name, m⟩⟩) = some e ∧ e.Open (entries d.root) name [] := by
  refine ⟨⟨d.root ++ [(name, mark, .table .header [])], [⟨name, m⟩]⟩, ?_, ?_⟩
  · simp [Draft.add, Table.change, Table.declare, lookup_fresh fresh]
  · exact ⟨d.root, mark, m, [], rfl, rfl, rfl, rfl⟩

theorem add_pair {key : String} (opened : d.Open front name inner)
    (own : name ∉ front.map Prod.fst) (fresh : key ∉ inner.map Prod.fst) (mark m k : Mark)
    (v : Tree) :
    ∃ e, d.add (.pair mark ⟨[], ⟨key, m⟩⟩ (k, v)) = some e ∧
      e.Open front name (inner ++ [(key, v.node)]) := by
  obtain ⟨before, at_, place, pairs, root, here, rfl, rfl⟩ := opened
  have found := lookup_last own (at_, .table .header pairs)
  refine ⟨⟨before ++ [(name, at_, .table .header (pairs ++ [(key, k, v)]))], [⟨name, place⟩]⟩, ?_, ?_⟩
  · simp [Draft.add, Table.change, Table.put, root, here, found, lookup_fresh fresh,
      putEntry_last own]
  · exact ⟨before, at_, place, pairs ++ [(key, k, v)], rfl, rfl, rfl, by simp [Toml.entries]⟩

/- Sections. -/

theorem adds_header (bare : Bare name) (fresh : name ∉ (entries d.root).map Prod.fst)
    (rest : List Char) :
    ∃ e, Adds (headerLine name ++ rest) rest d e ∧ e.Open (entries d.root) name [] := by
  have line : headerLine name ++ rest = '[' :: (name.toList ++ ']' :: '\n' :: rest) := by
    simp [headerLine]
  have starts : startsNoStatement '[' (name.toList ++ ']' :: '\n' :: rest) = false := by
    simp [startsNoStatement, startsLineEnd]
  let mark := ('[' :: (name.toList ++ ']' :: '\n' :: rest)).length
  obtain ⟨m, header⟩ := readHeader_bare bare mark ('\n' :: rest)
  obtain ⟨e, added, opened⟩ := add_header fresh mark m
  have read : readStatement ('[' :: (name.toList ++ ']' :: '\n' :: rest)) =
      .ok (.header mark ⟨[], ⟨name, m⟩⟩, rest) := by
    simp only [readStatement, header, bind, Except.bind, endLine_newline, mark]
    rfl
  refine ⟨e, ?_, opened⟩
  rw [line]
  refine adds_statement (by decide) starts read ?_ added
  simp only [List.length_append, List.length_cons]
  omega

theorem adds_pair {key : String} {v : Tree} (opened : d.Open front name inner)
    (own : name ∉ front.map Prod.fst) (fresh : key ∉ inner.map Prod.fst) (bare : Bare key)
    (reads : Reads value v) (rest : List Char) :
    ∃ e, Adds (pairLine key value ++ rest) rest d e ∧
      e.Open front name (inner ++ [(key, v.node)]) := by
  obtain ⟨c, cs, chars, first⟩ := bare.exists_cons
  have line : pairLine key value ++ rest =
      key.toList ++ (' ' :: '=' :: ' ' :: (value ++ '\n' :: rest)) := by
    simp [pairLine]
  obtain ⟨m, k, pair⟩ := readPair_bare bare reads rest
  rw [← line] at pair
  have cut : pairLine key value ++ rest =
      c :: (cs ++ (' ' :: '=' :: ' ' :: (value ++ '\n' :: rest))) := by
    rw [line, chars, List.cons_append]
  have bracket : c ≠ '[' := ne_of_bare first (by decide)
  have hash : c ≠ '#' := ne_of_bare first (by decide)
  have return_ : c ≠ '\r' := ne_of_bare first (by decide)
  have newline : c ≠ '\n' := ne_of_bare first (by decide)
  have space : c ≠ ' ' := ne_of_bare first (by decide)
  have tab : c ≠ '\t' := ne_of_bare first (by decide)
  rw [cut] at pair ⊢
  let mark := (c :: (cs ++ (' ' :: '=' :: ' ' :: (value ++ '\n' :: rest)))).length
  obtain ⟨e, added, still⟩ := add_pair opened own fresh mark m k v
  refine ⟨e, adds_statement ?_ ?_ ?_ ?_ added, still⟩
  · simp [isGap, space, tab]
  · simp [startsNoStatement, startsLineEnd, hash, return_, newline]
  · rw [readStatement]
    · simp only [pair, bind, Except.bind, Except.map, endLine_newline]
      rfl
    · rintro r ⟨⟩
      exact bracket rfl
  · simp only [List.length_append, List.length_cons]
    omega

structure Line where
  name : String
  value : List Char
  tree : Tree

structure Line.Legal (l : Line) : Prop where
  bare : Bare l.name
  reads : Reads l.value l.tree

def Line.chars (l : Line) : List Char :=
  pairLine l.name l.value

def Line.entry (l : Line) : String × Node :=
  (l.name, l.tree.node)

theorem adds_lines {lines : List Line} (opened : d.Open front name inner)
    (own : name ∉ front.map Prod.fst) (legal : ∀ l ∈ lines, l.Legal)
    (distinct : (inner ++ lines.map Line.entry).Pairwise (·.1 ≠ ·.1)) (rest : List Char) :
    ∃ e, Adds (lines.flatMap Line.chars ++ rest) rest d e ∧
      e.Open front name (inner ++ lines.map Line.entry) := by
  -- Each line goes to the table that is open, under a key it does not have yet.
  induction lines generalizing d inner with
  | nil =>
    refine ⟨d, ?_, by simpa using opened⟩
    exact adds_nothing rest d
  | cons l lines ih =>
    obtain ⟨first, later⟩ := List.forall_mem_cons.mp legal
    have fresh : l.name ∉ inner.map Prod.fst := by
      intro member
      obtain ⟨entry, before, same⟩ := List.mem_map.mp member
      have apart := (List.pairwise_append.mp distinct).2.2 entry before l.entry (by simp)
      exact apart same
    obtain ⟨e, one, opened⟩ :=
      adds_pair opened own fresh first.bare first.reads (lines.flatMap Line.chars ++ rest)
    have remain : ((inner ++ [l.entry]) ++ lines.map Line.entry).Pairwise (·.1 ≠ ·.1) := by
      simpa using distinct
    obtain ⟨f, more, opened⟩ := ih opened later remain
    refine ⟨f, ?_, by simpa [Line.entry] using opened⟩
    rw [List.flatMap_cons, List.append_assoc]
    exact one.trans more

theorem adds_section {lines : List Line} (bare : Bare name)
    (fresh : name ∉ (entries d.root).map Prod.fst) (legal : ∀ l ∈ lines, l.Legal)
    (distinct : (lines.map Line.name).Nodup) (rest : List Char) :
    ∃ e, Adds (headerLine name ++ (lines.flatMap Line.chars ++ rest)) rest d e ∧
      entries e.root = entries d.root ++ [(name, object (lines.map Line.entry))] := by
  have keys : (lines.map Line.entry).Pairwise (·.1 ≠ ·.1) := by
    rw [List.pairwise_map]
    exact List.pairwise_map.mp distinct
  obtain ⟨e, header, opened⟩ := adds_header bare fresh (lines.flatMap Line.chars ++ rest)
  obtain ⟨f, pairs, filled⟩ := adds_lines opened fresh legal keys rest
  exact ⟨f, header.trans pairs, filled.entries⟩

end DeployPlan.Toml
