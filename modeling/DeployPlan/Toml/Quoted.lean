import DeployPlan.Text.Ascii
import DeployPlan.Toml.Blank

/-!
Reading TOML texts. Between quotation marks escapes are replaced; between apostrophes everything
stands for itself. Three marks instead of one let a text go over several lines, and then a backslash
at the end of a line drops the line end and all blanks behind it. A text that cannot be read stops at
a mark.
-/

namespace DeployPlan.Toml

def quote : Char := '"'

def apostrophe : Char := Char.ofNat 39

def simpleEscape? (c : Char) : Option Char :=
  if c = 'b' then some (Char.ofNat 8)
  else if c = 't' then some '\t'
  else if c = 'n' then some '\n'
  else if c = 'f' then some (Char.ofNat 12)
  else if c = 'r' then some '\r'
  else if c = '"' ∨ c = '\\' then some c
  else none

def charOf? (n : Nat) : Option Char :=
  if h : n.isValidChar then some (Char.ofNatAux n h) else none

/-- The end of a text over several lines: three marks, before which up to two more belong to the
text. Gives those two and what follows the end. -/
def closing? (mark : Char) (cs : List Char) : Option (List Char × List Char) :=
  let n := (cs.takeWhile (· = mark)).length
  if 3 ≤ n then some (List.replicate (min n 5 - 3) mark, cs.drop (min n 5)) else none

inductive Inside where
  /-- Between characters; with the flag set, blanks and line ends are still dropped. -/
  | plain (folding : Bool)
  | escaped
  | lineEnding
  /-- Before a digit of a numbered escape, which `further` digits follow. -/
  | numbered (further : Nat) (value : Nat)
deriving DecidableEq, Repr

def prepend (c : Char) (result : Except Mark (List Char × List Char)) :
    Except Mark (List Char × List Char) :=
  result.map fun (cs, rest) => (c :: cs, rest)

/-- The rest of a text between quotation marks, and what follows it. -/
def readEscaped (severalLines : Bool) : Inside → List Char → Except Mark (List Char × List Char)
  | _, [] => .error 0
  | .plain folding, c :: r =>
    if folding && (isGap c || startsLineEnd c r) then readEscaped severalLines (.plain true) r
    else if c = quote then
      if severalLines then
        match closing? quote (c :: r) with
        | some ended => .ok ended
        | none => prepend c (readEscaped severalLines (.plain false) r)
      else .ok ([], r)
    else if c = '\\' then readEscaped severalLines .escaped r
    else if isPlain c || (severalLines && c = '\n') then
      prepend c (readEscaped severalLines (.plain false) r)
    else if severalLines && startsLineEnd c r then readEscaped severalLines (.plain false) r
    else .error (r.length + 1)
  | .escaped, c :: r =>
    if c = 'u' then readEscaped severalLines (.numbered 3 0) r
    else if c = 'U' then readEscaped severalLines (.numbered 7 0) r
    else
      match simpleEscape? c with
      | some d => prepend d (readEscaped severalLines (.plain false) r)
      | none =>
        if severalLines && c = '\n' then readEscaped severalLines (.plain true) r
        else if severalLines && (isGap c || startsLineEnd c r) then
          readEscaped severalLines .lineEnding r
        else .error (r.length + 1)
  | .lineEnding, c :: r =>
    if c = '\n' then readEscaped severalLines (.plain true) r
    else if isGap c || startsLineEnd c r then readEscaped severalLines .lineEnding r
    else .error (r.length + 1)
  | .numbered further value, c :: r =>
    match Text.hexValue? c, further with
    | none, _ => .error (r.length + 1)
    | some v, further + 1 => readEscaped severalLines (.numbered further (16 * value + v)) r
    | some v, 0 =>
      match charOf? (16 * value + v) with
      | some d => prepend d (readEscaped severalLines (.plain false) r)
      | none => .error (r.length + 1)

def readLiteral (severalLines : Bool) : List Char → Except Mark (List Char × List Char)
  | [] => .error 0
  | c :: r =>
    if c = apostrophe then
      if severalLines then
        match closing? apostrophe (c :: r) with
        | some ended => .ok ended
        | none => prepend c (readLiteral severalLines r)
      else .ok ([], r)
    else if isPlain c || (severalLines && c = '\n') then prepend c (readLiteral severalLines r)
    else if severalLines && startsLineEnd c r then readLiteral severalLines r
    else .error (r.length + 1)

def readInLine (mark : Char) (cs : List Char) : Except Mark (List Char × List Char) :=
  if mark = quote then readEscaped false (.plain false) cs else readLiteral false cs

/-- A text, behind its first mark. A line end right behind three marks is not part of it. -/
def readText (mark : Char) (cs : List Char) : Except Mark (List Char × List Char) :=
  if cs.take 2 = [mark, mark] then
    let body := dropLineEnd (cs.drop 2)
    if mark = quote then readEscaped true (.plain false) body else readLiteral true body
  else readInLine mark cs

end DeployPlan.Toml
