import DeployPlan.Toml.Excerpt

/-!
What may stand between the parts of a TOML text: blanks, line ends and comments.
-/

namespace DeployPlan.Toml

def isGap (c : Char) : Bool :=
  c = ' ' || c = '\t'

/-- Characters that stand for themselves in comments and texts: all but control characters, and the
tab. -/
def isPlain (c : Char) : Bool :=
  c = '\t' || (32 ≤ c.toNat && c.toNat ≠ 127)

def skipGaps (cs : List Char) : List Char :=
  cs.dropWhile isGap

def startsLineEnd (c : Char) (r : List Char) : Bool :=
  c = '\n' || (c = '\r' && r.head? = some '\n')

def lineEnd? : List Char → Option (List Char)
  | '\n' :: r => some r
  | '\r' :: '\n' :: r => some r
  | _ => none

def dropLineEnd (cs : List Char) : List Char :=
  (lineEnd? cs).getD cs

def closeLine (cs : List Char) : Except Mark (List Char) :=
  if cs.isEmpty then .ok []
  else
    match lineEnd? cs with
    | some r => .ok r
    | none => .error cs.length

def endLine (cs : List Char) : Except Mark (List Char) :=
  match skipGaps cs with
  | [] => .ok []
  | c :: r => closeLine (if c = '#' then r.dropWhile isPlain else c :: r)

/-- Passes over blanks, line ends and comments. Inside a comment, which a line end must follow,
the flag is set. -/
def skipLines : Bool → List Char → Except Mark (List Char)
  | false, [] => .ok []
  | true, [] => .error 0
  | inComment, c :: r =>
    if startsLineEnd c r then skipLines false r
    else if inComment then if isPlain c then skipLines true r else .error (r.length + 1)
    else if isGap c then skipLines false r
    else if c = '#' then skipLines true r
    else if c = '\r' then .error (r.length + 1)
    else .ok (c :: r)

end DeployPlan.Toml
