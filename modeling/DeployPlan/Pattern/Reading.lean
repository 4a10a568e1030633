import DeployPlan.Number.Decimal
import DeployPlan.Pattern.Basic
import DeployPlan.Text.Pieces

/-!
Reading patterns. There are no references to groups and no looking around. `Pattern.read?` gives none
for a text that is no pattern, that nests too deeply, or whose compiled form would be too large.
-/

namespace DeployPlan.Pattern

structure Modes where
  ignoreCase : Bool := false
  multiLine : Bool := false
  dotAll : Bool := false
  lazy : Bool := false
  unicode : Bool := true
  wideLines : Bool := false
  verbose : Bool := false
deriving DecidableEq, Repr

structure Reader where
  rest : List Char
  modes : Modes := {}
  names : List (List Char) := []

structure Nested where
  pattern : Pattern
  depth : Nat := 0

/-- Something in a sequence: a pattern, or a switch of modes, which takes the place of one. -/
inductive Item where
  | part (n : Nested)
  | switch

def skipBlankChars (inComment : Bool) : List Char → List Char
  | [] => []
  | c :: cs =>
    if inComment then skipBlankChars (c ≠ '\n') cs
    else if Text.isBlank c then skipBlankChars false cs
    else if c = '#' then skipBlankChars true cs
    else c :: cs

def skipped (m : Modes) (cs : List Char) : List Char :=
  if m.verbose then skipBlankChars false cs else cs

/-! Escapes -/

inductive Escaped where
  | char (c : Char)
  | set (s : CharSet)
  | edge (e : Edge)

def wordSet (m : Modes) : CharSet := if m.unicode then .word else .asciiWord

def digitSet (m : Modes) : CharSet := if m.unicode then .digit else .asciiDigit

def blankSet (m : Modes) : CharSet := if m.unicode then .blank else .asciiBlank

/-- A complement that is no longer one of characters cannot be used on text. -/
def complementSet? (m : Modes) (s : CharSet) : Option CharSet :=
  if m.unicode then some (.complement s) else none

def charOfHex? (ds : List Char) : Option Char := do
  if ds.isEmpty then none
  let n ← ds.foldlM (fun n c => do
    let d ← Text.hexValue? c
    if n ≥ 0x110000 then none else return 16 * n + d) 0
  if n.isValidChar then some (Char.ofNat n) else none

def readHex? (m : Modes) (count : Nat) (cs : List Char) : Option (Char × List Char) :=
  match skipped m cs with
  | '{' :: rest => do
    let (ds, rest) ← Text.cutAt? '}' rest
    let ds := if m.verbose then ds.filter (!Text.isBlank ·) else ds
    return (← charOfHex? ds, rest)
  | cs => do
    let ds := cs.take count
    if ds.length < count then none
    return (← charOfHex? ds, cs.drop count)

def readProperty? (m : Modes) (negated : Bool) (cs : List Char) : Option (CharSet × List Char) := do
  if !m.unicode then none
  let (name, rest) ←
    match skipped m cs with
    | '{' :: rest => Text.cutAt? '}' rest
    | '\\' :: _ => none
    | c :: rest => some ([c], rest)
    | [] => none
  let (set, negated) ←
    match Text.cutAt? '=' name with
    | some (key, value) =>
      if key.getLast? = some '!' then
        (CharSet.ofNameAndValue? key.dropLast value).map (·, !negated)
      else (CharSet.ofNameAndValue? key value).map (·, negated)
    | none =>
      match Text.cutAt? ':' name with
      | some (key, value) => (CharSet.ofNameAndValue? key value).map (·, negated)
      | none => (CharSet.ofName? name).map (·, negated)
  let set := if m.ignoreCase then .folded set else set
  return (if negated then .complement set else set, rest)

def readEdgeName? (m : Modes) (cs : List Char) : Option (Edge × List Char) :=
  let plain : Edge := .wordEdge (wordSet m)
  let nameChar (c : Char) : Bool := Text.isAsciiLetter c || c = '-'
  match cs with
  | '{' :: rest =>
    match skipped m rest with
    | [] => none
    | c :: more =>
      if !nameChar c then some (plain, cs)
      else
        let name := (c :: more).takeWhile nameChar
        match String.ofList name, (c :: more).drop name.length with
        | "start", '}' :: rest => some (.wordStart (wordSet m), rest)
        | "end", '}' :: rest => some (.wordFinish (wordSet m), rest)
        | "start-half", '}' :: rest => some (.wordStartHalf (wordSet m), rest)
        | "end-half", '}' :: rest => some (.wordFinishHalf (wordSet m), rest)
        | _, _ => none
  | cs => some (plain, cs)

def readEscape? (m : Modes) : List Char → Option (Escaped × List Char)
  | [] => none
  | c :: cs =>
    let char (n : Nat) : Option (Escaped × List Char) := some (.char (Char.ofNat n), cs)
    let set (s : CharSet) : Option (Escaped × List Char) := some (.set s, cs)
    let setBut (s : CharSet) : Option (Escaped × List Char) :=
      (complementSet? m s).map fun s => (.set s, cs)
    match c with
    | 'x' => (readHex? m 2 cs).map fun (c, r) => (.char c, r)
    | 'u' => (readHex? m 4 cs).map fun (c, r) => (.char c, r)
    | 'U' => (readHex? m 8 cs).map fun (c, r) => (.char c, r)
    | 'p' => (readProperty? m false cs).map fun (s, r) => (.set s, r)
    | 'P' => (readProperty? m true cs).map fun (s, r) => (.set s, r)
    | 'd' => set (digitSet m)
    | 's' => set (blankSet m)
    | 'w' => set (wordSet m)
    | 'D' => setBut (digitSet m)
    | 'S' => setBut (blankSet m)
    | 'W' => setBut (wordSet m)
    | 'a' => char 7
    | 'f' => char 12
    | 't' => char 9
    | 'n' => char 10
    | 'r' => char 13
    | 'v' => char 11
    | 'A' => some (.edge .start, cs)
    | 'z' => some (.edge .finish, cs)
    | 'b' => (readEdgeName? m cs).map fun (e, r) => (.edge e, r)
    | 'B' => some (.edge (.noWordEdge (wordSet m)), cs)
    | '<' => some (.edge (.wordStart (wordSet m)), cs)
    | '>' => some (.edge (.wordFinish (wordSet m)), cs)
    | c =>
      if c.toNat ≥ 128 || Text.isAsciiLetter c || Text.isAsciiDigit c then none
      else some (.char c, cs)

/-! Sets in brackets -/

inductive SetOp where
  | both
  | without
  | apart

/-- A set in brackets that is being read. -/
structure OpenSet where
  negated : Bool
  members : List CharSet := []
  left : Option (CharSet × SetOp) := none
  depth : Nat := 0
  count : Nat := 0

namespace OpenSet

def foldedFor (m : Modes) (s : CharSet) : CharSet := if m.ignoreCase then .folded s else s

def add (o : OpenSet) (s : CharSet) : OpenSet :=
  { o with members := o.members ++ [s], count := o.count + 1 }

def value (m : Modes) (o : OpenSet) : CharSet :=
  let right := CharSet.ofList o.members
  match o.left with
  | none => right
  | some (left, op) =>
    let left := foldedFor m left
    let right := foldedFor m right
    match op with
    | .both => .both left right
    | .without => .without left right
    | .apart => .apart left right

def operate (m : Modes) (op : SetOp) (o : OpenSet) : OpenSet :=
  { o with members := [], left := some (o.value m, op), depth := o.depth + 1, count := 0 }

def close? (m : Modes) (o : OpenSet) : Option CharSet :=
  let s := foldedFor m (o.value m)
  if o.negated then complementSet? m s else some s

end OpenSet

/-- The beginning of a set behind its bracket: a caret negates it, hyphens and a bracket that come
first stand for themselves. -/
def openSet? (m : Modes) (cs : List Char) : Option (OpenSet × List Char) :=
  let (negated, cs) :=
    match skipped m cs with
    | '^' :: rest => (true, skipped m rest)
    | cs => (false, cs)
  let (hyphens, cs) := dashes cs
  let o : OpenSet := { negated, members := hyphens, count := hyphens.length }
  match cs with
  | [] => none
  | ']' :: rest =>
    if hyphens.isEmpty then
      let rest := skipped m rest
      if rest.isEmpty then none else some (o.add (.single ']'), rest)
    else some (o, cs)
  | cs => some (o, cs)
where
  dashes : List Char → List CharSet × List Char
    | '-' :: cs =>
      let (ss, rest) := dashes (skipped m cs)
      (.single '-' :: ss, rest)
    | cs => ([], cs)
  termination_by cs => cs.length
  decreasing_by
    have hskip : ∀ (b : Bool) (l : List Char), (skipBlankChars b l).length ≤ l.length := by
      intro b l
      induction l generalizing b with
      | nil => simp [skipBlankChars]
      | cons c l ih =>
        simp only [skipBlankChars]
        split
        · have := ih (c ≠ '\n'); simp only [List.length_cons]; omega
        · split
          · have := ih false; simp only [List.length_cons]; omega
          · split
            · have := ih true; simp only [List.length_cons]; omega
            · simp
    simp only [skipped, List.length_cons]
    split
    · have := hskip false cs; omega
    · omega

def readBracketName? (m : Modes) : List Char → Option (CharSet × List Char)
  | ':' :: cs => do
    let (negated, cs) := match cs with
      | '^' :: rest => (true, rest)
      | cs => (false, cs)
    let (name, rest) ← Text.cutAt? ':' cs
    match rest with
    | ']' :: rest =>
      let set ← CharSet.ofBracketName? (String.ofList name)
      if negated then return (← complementSet? m set, rest) else return (set, rest)
    | _ => none
  | _ => none

def readMember? (m : Modes) : List Char → Option (Escaped × List Char)
  | [] => none
  | '\\' :: cs => readEscape? m cs
  | c :: cs => some (.char c, cs)

def readRange? (m : Modes) (cs : List Char) : Option (CharSet × List Char) := do
  let (first, rest) ← readMember? m cs
  let rest := skipped m rest
  let alone : Option (CharSet × List Char) :=
    match first with
    | .char c => if c.toNat < 128 || m.unicode then some (.single c, rest) else none
    | .set s => some (s, rest)
    | .edge _ => none
  match rest with
  | [] => none
  | '-' :: more =>
    let more := skipped m more
    match more with
    | [] => none
    | ']' :: _ => alone
    | '-' :: _ => alone
    | more =>
      let (last, rest) ← readMember? m more
      match first, last with
      | .char a, .char b =>
        if a.toNat ≤ b.toNat && (b.toNat < 128 || m.unicode) then
          some (.span a.toNat b.toNat, rest)
        else none
      | _, _ => none
  | _ => alone

def readSet? (m : Modes) : Nat → List OpenSet → OpenSet → List Char →
    Option (CharSet × Nat × List Char)
  | 0, _, _, _ => none
  | fuel + 1, outer, o, cs =>
    match skipped m cs with
    | [] => none
    | '[' :: rest =>
      match readBracketName? m rest with
      | some (s, rest) => readSet? m fuel outer (o.add s) rest
      | none => do
        let (inner, rest) ← openSet? m rest
        readSet? m fuel (o :: outer) inner rest
    | ']' :: rest => do
      let s ← o.close? m
      let depth := o.depth + (if o.count > 1 then 1 else 0) + 1
      match outer with
      | [] => return (s, depth, rest)
      | p :: outer => readSet? m fuel outer { p.add s with depth := max p.depth depth } rest
    | '&' :: '&' :: rest => readSet? m fuel outer (o.operate m .both) rest
    | '-' :: '-' :: rest => readSet? m fuel outer (o.operate m .without) rest
    | '~' :: '~' :: rest => readSet? m fuel outer (o.operate m .apart) rest
    | cs => do
      let (s, rest) ← readRange? m cs
      readSet? m fuel outer (o.add s) rest

/-! Repetitions -/

def readCount? (cs : List Char) : Option Nat × List Char :=
  let cs := Text.trimStartChars cs
  let ds := cs.takeWhile Text.isAsciiDigit
  (if ds.isEmpty || Number.ofDigits ds ≥ 4294967296 then none else some (Number.ofDigits ds),
    Text.trimStartChars (cs.drop ds.length))

def readBounds? (cs : List Char) : Option (Nat × Option Nat × List Char) := do
  let (least, rest) := readCount? cs
  let least ← least
  match rest with
  | '}' :: rest => return (least, some least, rest)
  | ',' :: rest =>
    match Text.trimStartChars rest with
    | '}' :: rest => return (least, none, rest)
    | rest =>
      let (most, rest) := readCount? rest
      let most ← most
      match rest with
      | '}' :: rest => if least ≤ most then return (least, some most, rest) else none
      | _ => none
  | _ => none

/-- A repetition is lazy with a question mark behind it, which does not change what matches. -/
def withoutLazyMark (m : Modes) (cs : List Char) : List Char :=
  match skipped m cs with
  | '?' :: rest => rest
  | _ => cs

def repeatLast? (items : List Item) (least : Nat) (most : Option Nat) : Option (List Item) :=
  match items with
  | .part n :: before => some (.part ⟨.many n.pattern least most, n.depth + 1⟩ :: before)
  | _ => none

/-! Groups and sequences -/

def readModes? (m : Modes) (on : Bool) (seen : List Char) :
    List Char → Option (Modes × Bool × List Char)
  | [] => none
  | c :: cs =>
    if c = ':' ∨ c = ')' then
      if seen.head? = some '-' ∨ (c = ')' ∧ seen.isEmpty) then none
      else some (m, c = ':', cs)
    else if seen.contains c then none
    else
      match c with
      | '-' => readModes? m false (c :: seen) cs
      | 'i' => readModes? { m with ignoreCase := on } on (c :: seen) cs
      | 'm' => readModes? { m with multiLine := on } on (c :: seen) cs
      | 's' => readModes? { m with dotAll := on } on (c :: seen) cs
      | 'U' => readModes? { m with lazy := on } on (c :: seen) cs
      | 'u' => readModes? { m with unicode := on } on (c :: seen) cs
      | 'R' => readModes? { m with wideLines := on } on (c :: seen) cs
      | 'x' => readModes? { m with verbose := on } on (c :: seen) cs
      | _ => none

def readName? (cs : List Char) : Option (List Char × List Char) := do
  let (name, rest) ← Text.cutAt? '>' cs
  let alphabetic (c : Char) : Bool := Unicode.isAlphabetic c.toNat
  let numeric (c : Char) : Bool := CharSet.numbers.contains (Unicode.Category.ofCode c.toNat)
  match name with
  | [] => none
  | c :: more =>
    let goesOn (c : Char) : Bool := alphabetic c || numeric c || ['_', '.', '[', ']'].contains c
    if (c = '_' || alphabetic c) && more.all goesOn then some (name, rest) else none

inductive Opening where
  | switch (r : Reader)
  | group (r : Reader)

def readOpening? (r : Reader) (cs : List Char) : Option Opening :=
  match skipped r.modes cs with
  | '?' :: rest =>
    match rest with
    | '<' :: '=' :: _ => none
    | '<' :: '!' :: _ => none
    | '=' :: _ => none
    | '!' :: _ => none
    | '<' :: rest => named rest
    | 'P' :: '<' :: rest => named rest
    | rest => do
      let (modes, grouped, rest) ← readModes? r.modes true [] rest
      let r := { r with rest := rest, modes := modes }
      return if grouped then .group r else .switch r
  | rest => some (.group { r with rest := rest })
where
  named (cs : List Char) : Option Opening := do
    let (name, rest) ← readName? cs
    if r.names.contains name then none
    else return .group { r with rest := rest, names := name :: r.names }

def literal (m : Modes) (c : Char) : Pattern :=
  .one (OpenSet.foldedFor m (.single c))

def dot (m : Modes) : Option Pattern :=
  if !m.unicode then none
  else if m.dotAll then some (.one .any)
  else
    let ends := if m.wideLines then CharSet.either (.single '\n') (.single '\r') else .single '\n'
    some (.one (.complement ends))

def lineStart (m : Modes) : Edge :=
  if !m.multiLine then .start else if m.wideLines then .wideLineStart else .lineStart

def lineFinish (m : Modes) : Edge :=
  if !m.multiLine then .finish else if m.wideLines then .wideLineFinish else .lineFinish

def sequenceOf (items : List Item) : Nested :=
  let nest (n : Nested) : Item → Nested
    | .part m => ⟨match n.pattern with
        | .empty => m.pattern
        | p => .seq m.pattern p, max n.depth m.depth⟩
    | .switch => n
  match items with
  | [] => ⟨.empty, 0⟩
  | [.part n] => n
  | items =>
    let n := items.foldl nest ⟨.empty, 0⟩
    ⟨n.pattern, n.depth + 1⟩

def branchesOf : List Nested → Nested
  | [] => ⟨.empty, 0⟩
  | [n] => n
  | n :: ns =>
    let m := ns.foldl (fun (m : Nested) b => ⟨.alt b.pattern m.pattern, max m.depth b.depth⟩) n
    ⟨m.pattern, m.depth + 1⟩

/-- Reads branches and sequences up to the end of the group they stand in. `items` has the items of
the sequence and `branches` the branches before it, both last one first. -/
def readGroup? : Nat → Reader → List Item → List Nested → Option (Nested × Reader)
  | 0, _, _, _ => none
  | fuel + 1, r, items, branches =>
    let add (n : Nested) (rest : List Char) : Option (Nested × Reader) :=
      readGroup? fuel { r with rest := rest } (.part n :: items) branches
    let again (least : Nat) (most : Option Nat) (rest : List Char) : Option (Nested × Reader) := do
      let items ← repeatLast? items least most
      readGroup? fuel { r with rest := withoutLazyMark r.modes rest } items branches
    let finish (r : Reader) : Option (Nested × Reader) :=
      some (branchesOf (sequenceOf items :: branches), r)
    match skipped r.modes r.rest with
    | [] => finish { r with rest := [] }
    | c :: rest =>
      match c with
      | ')' => finish { r with rest := c :: rest }
      | '|' => readGroup? fuel { r with rest := rest } [] (sequenceOf items :: branches)
      | '(' => do
        match ← readOpening? r rest with
        | .switch r => readGroup? fuel r (.switch :: items) branches
        | .group inner =>
          let (n, after) ← readGroup? fuel inner [] []
          match after.rest with
          | ')' :: rest =>
            readGroup? fuel { r with rest := rest, names := after.names }
              (.part ⟨n.pattern, n.depth + 1⟩ :: items) branches
          | _ => none
      | '[' => do
        let (o, rest) ← openSet? r.modes rest
        let (s, depth, rest) ← readSet? r.modes fuel [] o rest
        add ⟨.one s, depth⟩ rest
      | '?' => again 0 (some 1) rest
      | '*' => again 0 none rest
      | '+' => again 1 none rest
      | '{' => do
        let (least, most, rest) ← readBounds? rest
        again least most rest
      | '.' => do add ⟨← dot r.modes, 0⟩ rest
      | '^' => add ⟨.edge (lineStart r.modes), 0⟩ rest
      | '$' => add ⟨.edge (lineFinish r.modes), 0⟩ rest
      | '\\' => do
        let (e, rest) ← readEscape? r.modes rest
        match e with
        | .char c =>
          add ⟨literal r.modes c, 0⟩ rest
        | .set s => add ⟨.one s, 0⟩ rest
        | .edge e => add ⟨.edge e, 0⟩ rest
      | c => add ⟨literal r.modes c, 0⟩ rest

def depthLimit : Nat := 250

def weightLimit : Nat := 10 * 1024 * 1024

def read? (s : String) : Option Pattern := do
  let cs := s.toList
  let (n, after) ← readGroup? (2 * cs.length + 2) { rest := cs } [] []
  if after.rest.isEmpty && n.depth ≤ depthLimit && n.pattern.weight ≤ weightLimit then
    return n.pattern
  else none

end DeployPlan.Pattern
