import DeployPlan.Toml.Quoted
import DeployPlan.Toml.Scalar

/-!
Reading TOML text. `statements` cuts it into headers and pairs up to the first place that is not
well formed, `build` makes tables of them, and `read` reports whichever fails first in the text.
-/

namespace DeployPlan.Toml

/-- Bound on the nesting of values and on the names in a key; it is not reached. -/
def depthLimit : Nat := 80

def isBareKeyChar (c : Char) : Bool :=
  Text.isAsciiLetter c || Text.isAsciiDigit c || c = '-' || c = '_'

def readName : List Char → Except Mark (List Char × List Char)
  | [] => .error 0
  | c :: r =>
    if c = quote ∨ c = apostrophe then readInLine c r
    else if isBareKeyChar c then
      .ok ((c :: r).takeWhile isBareKeyChar, (c :: r).dropWhile isBareKeyChar)
    else .error (r.length + 1)

def readKey : Nat → List Char → Except Mark (KeyPath × List Char)
  | 0, cs => .error cs.length
  | room + 1, cs => do
    let start := skipGaps cs
    let (name, rest) ← readName start
    let key : Key := ⟨String.ofList name, start.length⟩
    match skipGaps rest with
    | '.' :: r => do
      let (path, rest) ← readKey room r
      return (⟨key :: path.above, path.last⟩, rest)
    | rest => return (⟨[], key⟩, rest)

abbrev Reader := List Char → Except Mark (Tree × List Char)

def readPair (value : Reader) (cs : List Char) :
    Except Mark ((KeyPath × Mark × Tree) × List Char) := do
  let (path, rest) ← readKey (depthLimit - 1) cs
  match rest with
  | '=' :: r => do
    let start := skipGaps r
    let (v, rest) ← value start
    return ((path, start.length, v), rest)
  | rest => .error rest.length

/-- The items of a list, behind its opening bracket or behind a comma. Where the blanks behind an
item are not well formed, the item is not either. -/
def readItems (value : Reader) : Nat → List Char → Except Mark (List (Mark × Tree) × List Char)
  | 0, cs => .error cs.length
  | fuel + 1, cs => do
    match ← skipLines false cs with
    | ']' :: r => return ([], r)
    | start => do
      let (v, rest) ← value start
      match skipLines false rest with
      | .ok (',' :: r) => do
        let (vs, rest) ← readItems value fuel r
        return ((start.length, v) :: vs, rest)
      | .ok (']' :: r) => return ([(start.length, v)], r)
      | .ok rest => .error rest.length
      | .error _ => .error start.length

def readPairs (value : Reader) :
    Nat → List Char → Except Mark (List (KeyPath × Mark × Tree) × List Char)
  | 0, cs => .error cs.length
  | fuel + 1, cs => do
    let (p, rest) ← readPair value cs
    match skipGaps rest with
    | ',' :: r => do
      let (ps, rest) ← readPairs value fuel r
      return (p :: ps, rest)
    | rest => return ([p], rest)

def inlineTable? (ps : List (KeyPath × Mark × Tree)) : Option Table :=
  ps.foldlM (fun t (path, v) => t.put path.last v path.above) []

def readValue : Nat → Reader
  | _, [] => .error 0
  | room, c :: r =>
    if c = quote ∨ c = apostrophe then
      (readText c r).map fun (s, rest) => (.text (String.ofList s), rest)
    else if c = '[' then
      match room with
      | 0 => .error (r.length + 1)
      | room + 1 =>
        (readItems (readValue room) (r.length + 1) r).map fun (vs, rest) => (.list vs, rest)
    else if c = '{' then
      match room with
      | 0 => .error (r.length + 1)
      | room + 1 => do
        let (ps, rest) ←
          match skipGaps r with
          | '}' :: _ => .ok ([], skipGaps r)
          | _ => readPairs (readValue room) (r.length + 1) r
        match inlineTable? ps with
        | none => .error r.length
        | some t =>
          match rest with
          | '}' :: rest => return (.table .inline t, rest)
          | rest => .error rest.length
    else
      match scalar? (c :: r) with
      | some result => .ok result
      | none => .error (r.length + 1)

inductive Statement where
  | header (mark : Mark) (path : KeyPath)
  | element (mark : Mark) (path : KeyPath)
  | pair (mark : Mark) (path : KeyPath) (value : Mark × Tree)
deriving Inhabited

def Statement.mark : Statement → Mark
  | .header m _ | .element m _ | .pair m _ _ => m

def readHeader (mark : Mark) : List Char → Except Mark (Statement × List Char)
  | '[' :: r => do
    let (path, rest) ← readKey (depthLimit - 1) r
    match rest with
    | ']' :: ']' :: rest => return (.element mark path, rest)
    | rest => .error rest.length
  | r => do
    let (path, rest) ← readKey (depthLimit - 1) r
    match rest with
    | ']' :: rest => return (.header mark path, rest)
    | rest => .error rest.length

/-- A statement and the lines behind its own. -/
def readStatement (cs : List Char) : Except Mark (Statement × List Char) := do
  let (s, rest) ←
    match cs with
    | '[' :: r => readHeader cs.length r
    | _ => (readPair (readValue (depthLimit - 1)) cs).map fun ((path, v), rest) =>
        (.pair cs.length path v, rest)
  return (s, ← endLine rest)

def startsNoStatement (c : Char) (r : List Char) : Bool :=
  c = '#' || c = '\r' || startsLineEnd c r

def statements : Nat → List Char → List Statement × Option Mark
  | 0, cs => ([], some cs.length)
  | fuel + 1, cs =>
    match skipGaps cs with
    | [] => ([], none)
    | c :: r =>
      if startsNoStatement c r then
        match endLine (c :: r) with
        | .ok rest => statements fuel rest
        | .error m => ([], some m)
      else
        match readStatement (c :: r) with
        | .ok (s, rest) =>
          let (ss, stop) := statements fuel rest
          (s :: ss, stop)
        | .error m => ([], some m)

structure Draft where
  root : Table := []
  here : List Key := []

def Draft.add (d : Draft) : Statement → Option Draft
  | .header m path =>
    (d.root.change (Table.declare m path.last) path.above).map (⟨·, path.above ++ [path.last]⟩)
  | .element m path =>
    (d.root.change (Table.declareElement m path.last) path.above).map
      (⟨·, path.above ++ [path.last]⟩)
  | .pair _ path v =>
    (d.root.change (Table.put path.last v path.above) d.here).map (⟨·, d.here⟩)

/-- Adds statements one by one. One that contradicts those before it stops at its start. -/
def build : Draft → List Statement → Except Mark Draft
  | d, [] => .ok d
  | d, s :: ss =>
    match d.add s with
    | some d => build d ss
    | none => .error s.mark

def dropOrderMark : List Char → List Char
  | [] => []
  | c :: r => if c.toNat = 0xFEFF then r else c :: r

def read (cs : List Char) : Except Mark Table := do
  let text := dropOrderMark cs
  let (ss, stop) := statements (text.length + 1) text
  let d ← build {} ss
  match stop with
  | none => return d.root
  | some m => .error m

end DeployPlan.Toml
