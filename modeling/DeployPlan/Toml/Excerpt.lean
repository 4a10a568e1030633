import DeployPlan.Number.Decimal

/-!
The lines of a text around a place in it. `lines` cuts a text at its line ends, `lineOf` numbers the
line of a place from 1, and `around` picks that line with the one before and the one after it.
-/

namespace DeployPlan.Toml

/-- A place in a text, told by the number of characters from there to the end. -/
abbrev Mark := Nat

/-- The lines of a text without their ends. A line ends with a line feed, or with a carriage return
and a line feed; the last one need not end. -/
def lines : List Char → List (List Char)
  | [] => []
  | '\n' :: cs => [] :: lines cs
  | '\r' :: '\n' :: cs => [] :: lines cs
  | c :: cs =>
    match lines cs with
    | [] => [[c]]
    | l :: ls => (c :: l) :: ls

def lineOf (cs : List Char) (offset : Nat) : Nat :=
  (cs.take offset).count '\n' + 1

def lineOfMark (cs : List Char) (m : Mark) : Nat :=
  lineOf cs (cs.length - m)

/-- The lines from one before to one after line `n`, as far as there are such, with their numbers. -/
def around (cs : List Char) (n : Nat) : List (Nat × List Char) :=
  let first := n - 2
  (List.zipIdx (((lines cs).take (n + 1)).drop first) (first + 1)).map fun (l, i) => (i, l)

/-- A shown line. The one the excerpt is about is marked. -/
def shownLine (n : Nat) : Nat × List Char → List Char
  | (i, l) =>
    let ds := Number.digits i
    List.replicate 3 (if i = n then '>' else ' ') ++ ' ' :: List.replicate (4 - ds.length) ' ' ++
      ds ++ [' ', '|', ' '] ++ l

def excerpt (cs : List Char) (n : Nat) : List (List Char) :=
  (around cs n).map (shownLine n)

end DeployPlan.Toml
