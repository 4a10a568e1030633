import DeployPlan.Number.Decimal
import DeployPlan.Toml.Quoted
import DeployPlan.Toml.Tree

/-!
Writing TOML text. A text is written in the plainest style that holds it: in one line before several,
between quotation marks before apostrophes, and with escapes only where no style does without.
-/

namespace DeployPlan.Toml

/-- The ways to write a text: between quotation marks or apostrophes, one or three of them. -/
inductive Style where
  | escaped
  | literal
  | escapedLines
  | literalLines
deriving DecidableEq, Repr

def needsEscape (c : Char) : Bool :=
  c ≠ '\n' && !isPlain c

def longestRun (c : Char) (n : Nat) : List Char → Nat
  | [] => n
  | d :: ds => if d = c then longestRun c (n + 1) ds else max n (longestRun c 0 ds)

def styleOf (cs : List Char) : Style :=
  let quotes := longestRun quote 0 cs
  let apostrophes := longestRun apostrophe 0 cs
  let inLine := !cs.contains '\n'
  let backslash := cs.contains '\\'
  if cs.any needsEscape then if inLine then .escaped else .escapedLines
  else if inLine && !backslash && quotes = 0 then .escaped
  else if inLine && apostrophes = 0 then .literal
  else if !backslash && quotes ≤ 2 then .escapedLines
  else if apostrophes ≤ 2 then .literalLines
  else if inLine then .escaped
  else .escapedLines

def escapedChar (severalLines : Bool) (c : Char) : List Char :=
  if c = '\t' then ['\\', 't']
  else if c = '\n' then if severalLines then ['\n'] else ['\\', 'n']
  else if c = '\\' then ['\\', '\\']
  else if isPlain c then [c]
  else if c.toNat = 8 then ['\\', 'b']
  else if c.toNat = 12 then ['\\', 'f']
  else if c = '\r' then ['\\', 'r']
  else
    ['\\', 'u', '0', '0', Text.upperHexDigit (c.toNat / 16), Text.upperHexDigit (c.toNat % 16)]

/-- A text between quotation marks, behind `run` marks that stand for themselves. Two such may follow
each other where three of them are the end. -/
def escapedText (severalLines : Bool) : Nat → List Char → List Char
  | _, [] => []
  | run, c :: cs =>
    if c = quote then
      if severalLines && run < 2 then c :: escapedText severalLines (run + 1) cs
      else '\\' :: c :: escapedText severalLines 0 cs
    else escapedChar severalLines c ++ escapedText severalLines 0 cs

/-- Puts three marks around a text. If it has several lines, it starts on a line of its own. -/
def betweenThree (mark : Char) (cs body : List Char) : List Char :=
  List.replicate 3 mark ++ (if cs.contains '\n' then ['\n'] else []) ++ body ++
    List.replicate 3 mark

def writeText (cs : List Char) : List Char :=
  match styleOf cs with
  | .escaped => quote :: (escapedText false 0 cs ++ [quote])
  | .literal => apostrophe :: (cs ++ [apostrophe])
  | .escapedLines => betweenThree quote cs (escapedText true 0 cs)
  | .literalLines => betweenThree apostrophe cs cs

def pairLine (name : String) (value : List Char) : List Char :=
  name.toList ++ [' ', '=', ' '] ++ value ++ ['\n']

def headerLine (name : String) : List Char :=
  '[' :: (name.toList ++ [']', '\n'])

end DeployPlan.Toml
