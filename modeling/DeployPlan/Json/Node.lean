import DeployPlan.Json.Value
import DeployPlan.Text.Ascii

/-!
Reading JSON text. `Node.read` never fails: a text that is no JSON gives a tree whose last branch
says where reading stopped and why. What is wrong with the data of a document can then be reported
before what is wrong with the text behind it.
-/

namespace DeployPlan.Json

inductive Fault where
  | malformed
  | truncated
deriving DecidableEq, Repr, Inhabited

/-- A place where reading stopped. A value that nobody needs is passed over by laxer rules, which
may stop for another reason. -/
structure Stop where
  whenRead : Fault
  whenSkipped : Fault
deriving DecidableEq, Repr, Inhabited

def Stop.both (f : Fault) : Stop := ⟨f, f⟩

/-- A value as far as it could be read. A `float` comes from a document that can also name infinities;
a list or object with `stop` was not closed; in `unpaired` a text holds half of a surrogate pair;
`broken` stands where no value could be read. A member whose name has half of a surrogate pair has no
name. -/
inductive Node where
  | null
  | bool (b : Bool)
  | number (n : NumberText)
  | float (f : Float)
  | text (s : String)
  | unpaired
  | list (items : List Node) (stop : Option Stop)
  | object (members : List (Option String × Node)) (stop : Option Stop)
  | broken (stop : Stop)
deriving Repr, Inhabited

def isSpace (c : Char) : Bool :=
  c = ' ' || c = '\t' || c = '\n' || c = '\r'

def skipSpace (cs : List Char) : List Char :=
  cs.dropWhile isSpace

/-- The number of a four-digit escape and the rest. Where fewer than four bytes are left the text
is truncated, whatever they hold. -/
def fourHex (cs : List Char) : Except Fault (Nat × List Char) :=
  if (cs.take 4).foldl (fun n c => n + c.utf8Size) 0 < 4 then .error .truncated
  else
    match cs with
    | a :: b :: c :: d :: rest =>
      match Text.hexValue? a, Text.hexValue? b, Text.hexValue? c, Text.hexValue? d with
      | some a, some b, some c, some d => .ok (((a * 16 + b) * 16 + c) * 16 + d, rest)
      | _, _, _, _ => .error .malformed
    | _ => .error .malformed

inductive Escape where
  | char (c : Char) (rest : List Char)
  | half (rest : List Char)
  | bad (stop : Stop)

/-- A trailing half that follows a leading one. -/
def pairedEscape (lead : Nat) (rest : List Char) : Escape :=
  match rest with
  | [] => .bad (.both .truncated)
  | ['\\'] => .bad (.both .truncated)
  | '\\' :: 'u' :: more =>
    match fourHex more with
    | .error f => .bad (.both f)
    | .ok (trail, more) =>
      if 0xDC00 ≤ trail ∧ trail ≤ 0xDFFF then
        .char (Char.ofNat (0x10000 + (lead - 0xD800) * 0x400 + (trail - 0xDC00))) more
      else .half rest
  | _ => .half rest

def readEscape : List Char → Escape
  | [] => .bad (.both .truncated)
  | 'u' :: cs =>
    match fourHex cs with
    | .error f => .bad (.both f)
    | .ok (n, rest) =>
      if 0xDC00 ≤ n ∧ n ≤ 0xDFFF then .half rest
      else if 0xD800 ≤ n ∧ n ≤ 0xDBFF then pairedEscape n rest
      else .char (Char.ofNat n) rest
  | c :: rest =>
    if c = '"' ∨ c = '\\' ∨ c = '/' then .char c rest
    else if c = 'b' then .char (Char.ofNat 8) rest
    else if c = 'f' then .char (Char.ofNat 12) rest
    else if c = 'n' then .char '\n' rest
    else if c = 'r' then .char '\r' rest
    else if c = 't' then .char '\t' rest
    else .bad (.both .malformed)

def stopIn (acc : Option (List Char)) (s : Stop) : Stop :=
  if acc.isNone then { s with whenRead := .malformed } else s

/-- A text behind its opening quotation mark: its characters (none when it holds half of a pair) and
the rest. `acc` has the characters so far, last one first. -/
def readText : Nat → Option (List Char) → List Char →
    Except Stop (Option (List Char) × List Char)
  | 0, acc, _ => .error (stopIn acc (.both .truncated))
  | _ + 1, acc, [] => .error (stopIn acc (.both .truncated))
  | fuel + 1, acc, c :: cs =>
    if c = '"' then .ok (acc.map List.reverse, cs)
    else if c = '\\' then
      match readEscape cs with
      | .char d rest => readText fuel (acc.map (d :: ·)) rest
      | .half rest => readText fuel none rest
      | .bad s => .error (stopIn acc s)
    else if c.toNat < 32 then .error (.both .malformed)
    else readText fuel (acc.map (c :: ·)) cs

def takeDigits (cs : List Char) : List Char × List Char :=
  (cs.takeWhile Text.isAsciiDigit, cs.dropWhile Text.isAsciiDigit)

def digitMissing : List Char → Stop
  | [] => ⟨.truncated, .malformed⟩
  | _ => .both .malformed

def readExponent : List Char → Except Stop (Option (Bool × List Char) × List Char)
  | [] => .ok (none, [])
  | c :: cs =>
    if c = 'e' ∨ c = 'E' then
      let (negative, cs) :=
        match cs with
        | '-' :: r => (true, r)
        | '+' :: r => (false, r)
        | r => (false, r)
      let (ds, rest) := takeDigits cs
      if ds.isEmpty then .error (digitMissing rest) else .ok (some (negative, ds), rest)
    else .ok (none, c :: cs)

def readFraction : List Char → Except Stop (List Char × List Char)
  | '.' :: cs =>
    let (ds, rest) := takeDigits cs
    if ds.isEmpty then .error (digitMissing rest) else .ok (ds, rest)
  | cs => .ok ([], cs)

def readNumber (negative : Bool) (cs : List Char) : Except Stop (NumberText × List Char) :=
  let (whole, rest) := takeDigits cs
  if whole.isEmpty then .error (digitMissing rest)
  else if whole.head? = some '0' ∧ whole.length > 1 then .error (.both .malformed)
  else do
    let (fraction, rest) ← readFraction rest
    let (exponent, rest) ← readExponent rest
    return (⟨negative, whole, fraction, exponent⟩, rest)

def readWord : List Char → List Char → Except Stop (List Char)
  | [], cs => .ok cs
  | _ :: _, [] => .error (.both .truncated)
  | w :: ws, c :: cs => if w = c then readWord ws cs else .error (.both .malformed)

def finish {α : Type} (f : α → Node) : Except Stop (α × List Char) → Node × Option (List Char)
  | .ok (a, rest) => (f a, some rest)
  | .error s => (.broken s, none)

def textNode : Option (List Char) → Node
  | some cs => .text (String.ofList cs)
  | none => .unpaired

mutual
/-- A value at the front of the text and what follows it; nothing follows where reading stopped. -/
def readValue : Nat → List Char → Node × Option (List Char)
  | 0, _ => (.broken (.both .truncated), none)
  | fuel + 1, cs =>
    match skipSpace cs with
    | [] => (.broken (.both .truncated), none)
    | c :: rest =>
      if c = '"' then finish textNode (readText (rest.length + 1) (some []) rest)
      else if c = '[' then
        let (items, stop, rest) := readItems fuel true rest
        (.list items stop, rest)
      else if c = '{' then
        let (members, stop, rest) := readMembers fuel true rest
        (.object members stop, rest)
      else if c = '-' then finish Node.number (readNumber true rest)
      else if Text.isAsciiDigit c then finish Node.number (readNumber false (c :: rest))
      else if c = 'n' then
        finish (fun _ : Unit => Node.null) ((readWord ['u', 'l', 'l'] rest).map ((), ·))
      else if c = 't' then
        finish (fun _ : Unit => Node.bool true) ((readWord ['r', 'u', 'e'] rest).map ((), ·))
      else if c = 'f' then
        finish (fun _ : Unit => Node.bool false)
          ((readWord ['a', 'l', 's', 'e'] rest).map ((), ·))
      else (.broken (.both .malformed), none)

def readItems : Nat → Bool → List Char → List Node × Option Stop × Option (List Char)
  | 0, _, _ => ([], some (.both .truncated), none)
  | fuel + 1, first, cs =>
    match skipSpace cs with
    | [] => ([], some (.both .truncated), none)
    | c :: rest =>
      if c = ']' then ([], none, some rest)
      else if first then readItem fuel (c :: rest)
      else if c = ',' then
        match skipSpace rest with
        | [] => ([], some (.both .truncated), none)
        | d :: rest => if d = ']' then ([], some (.both .malformed), none) else readItem fuel (d :: rest)
      else ([], some (.both .malformed), none)

def readItem : Nat → List Char → List Node × Option Stop × Option (List Char)
  | 0, _ => ([], some (.both .truncated), none)
  | fuel + 1, cs =>
    match readValue fuel cs with
    | (v, none) => ([v], none, none)
    | (v, some rest) =>
      let (vs, stop, rest) := readItems fuel false rest
      (v :: vs, stop, rest)

def readMembers : Nat → Bool → List Char →
    List (Option String × Node) × Option Stop × Option (List Char)
  | 0, _, _ => ([], some (.both .truncated), none)
  | fuel + 1, first, cs =>
    match skipSpace cs with
    | [] => ([], some (.both .truncated), none)
    | c :: rest =>
      if c = '}' then ([], none, some rest)
      else if first then
        if c = '"' then readMember fuel rest else ([], some (.both .malformed), none)
      else if c = ',' then
        match skipSpace rest with
        | [] => ([], some (.both .truncated), none)
        | d :: rest =>
          if d = '"' then readMember fuel rest else ([], some (.both .malformed), none)
      else ([], some (.both .malformed), none)

def readMember : Nat → List Char →
    List (Option String × Node) × Option Stop × Option (List Char)
  | 0, _ => ([], some (.both .truncated), none)
  | fuel + 1, cs =>
    match readText (cs.length + 1) (some []) cs with
    | .error s => ([], some s, none)
    | .ok (name, rest) =>
      let name := name.map String.ofList
      match skipSpace rest with
      | [] => ([(name, .broken (.both .truncated))], none, none)
      | c :: rest =>
        if c = ':' then
          match readValue fuel rest with
          | (v, none) => ([(name, v)], none, none)
          | (v, some rest) =>
            let (ms, stop, rest) := readMembers fuel false rest
            ((name, v) :: ms, stop, rest)
        else ([(name, .broken (.both .malformed))], none, none)
end

def Node.read (cs : List Char) : Node × Option (List Char) :=
  readValue (3 * cs.length + 3) cs

mutual
/-- The value, if it could be read as a whole. -/
def Node.value? : Node → Option Value
  | .null => some .null
  | .bool b => some (.bool b)
  | .number n => some (.number n)
  | .text s => some (.text s)
  | .list items none => (Node.values? items).map .list
  | .object members none => (Node.members? members).map .object
  | _ => none

def Node.values? : List Node → Option (List Value)
  | [] => some []
  | n :: ns =>
    match Node.value? n, Node.values? ns with
    | some v, some vs => some (v :: vs)
    | _, _ => none

def Node.members? : List (Option String × Node) → Option (List (String × Value))
  | [] => some []
  | (none, _) :: _ => none
  | (some k, n) :: ns =>
    match Node.value? n, Node.members? ns with
    | some v, some vs => some ((k, v) :: vs)
    | _, _ => none
end

def Value.ofText? (s : String) : Option Value :=
  match Node.read s.toList with
  | (n, some rest) => if (skipSpace rest).isEmpty then n.value? else none
  | (_, none) => none

mutual
def Value.node : Value → Node
  | .null => .null
  | .bool b => .bool b
  | .number n => .number n
  | .text s => .text s
  | .list items => .list (Value.nodes items) none
  | .object members => .object (Value.memberNodes members) none

def Value.nodes : List Value → List Node
  | [] => []
  | v :: vs => v.node :: Value.nodes vs

def Value.memberNodes : List (String × Value) → List (Option String × Node)
  | [] => []
  | (k, v) :: ms => (some k, v.node) :: Value.memberNodes ms
end

end DeployPlan.Json
