import DeployPlan.Text.Ascii

/-!
Punycode: labels of any characters in basic ones. The basic characters come first; the others follow as
increments of the pair of code point and place, in a number system whose digits adapt to the label.
-/

namespace DeployPlan.Url.Punycode

def digitChar (d : Nat) : Char :=
  if d < 26 then Char.ofNat (97 + d) else Char.ofNat (22 + d)

def digitValue? (c : Char) : Option Nat :=
  if 'a' ≤ c ∧ c ≤ 'z' then some (c.toNat - 97)
  else if 'A' ≤ c ∧ c ≤ 'Z' then some (c.toNat - 65)
  else if '0' ≤ c ∧ c ≤ '9' then some (c.toNat - 22)
  else none

def threshold (k bias : Nat) : Nat :=
  if k ≤ bias then 1 else if bias + 26 ≤ k then 26 else k - bias

def settle (delta k : Nat) : Nat :=
  if 455 < delta then settle (delta / 35) (k + 36) else k + 36 * delta / (delta + 38)
termination_by delta

def adapt (delta count : Nat) (first : Bool) : Nat :=
  let delta := if first then delta / 700 else delta / 2
  settle (delta + delta / count) 0

def increment (bias : Nat) : Nat → Nat → Nat → List Char
  | 0, _, _ => []
  | steps + 1, k, q =>
    let t := threshold k bias
    if q < t then [digitChar q]
    else
      digitChar (t + (q - t) % (36 - t)) :: increment bias steps (k + 36) ((q - t) / (36 - t))

structure Writer where
  delta : Nat
  bias : Nat
  placed : Nat
  out : List Char

def Writer.pass (basic n : Nat) (w : Writer) : List Char → Writer
  | [] => w
  | c :: cs =>
    if c.toNat < n then Writer.pass basic n { w with delta := w.delta + 1 } cs
    else if c.toNat = n then
      Writer.pass basic n {
        delta := 0
        bias := adapt w.delta (w.placed + 1) (w.placed == basic)
        placed := w.placed + 1
        out := w.out ++ increment w.bias (w.delta + 1) 36 w.delta } cs
    else Writer.pass basic n w cs

def Writer.run (basic : Nat) (label : List Char) (n : Nat) (w : Writer) : List Nat → Writer
  | [] => w
  | m :: ms =>
    let w := Writer.pass basic m { w with delta := w.delta + (m - n) * (w.placed + 1) } label
    Writer.run basic label (m + 1) { w with delta := w.delta + 1 } ms

def encode (label : List Char) : List Char :=
  let basic := label.filter (·.toNat < 128)
  let others := ((label.filter (·.toNat ≥ 128)).map Char.toNat).eraseDups.mergeSort
  let w := Writer.run basic.length label 128 ⟨0, 72, basic.length, []⟩ others
  basic ++ (if basic.isEmpty then [] else ['-']) ++ w.out

/-- One increment and the rest of the digits. -/
def readIncrement (bias : Nat) : Nat → Nat → Nat → List Char → Option (Nat × List Char)
  | _, _, _, [] => none
  | k, weight, sum, c :: cs => do
    let d ← digitValue? c
    let t := threshold k bias
    if d < t then return (sum + d * weight, cs)
    else readIncrement bias (k + 36) (weight * (36 - t)) (sum + d * weight) cs

def place : Nat → Nat → Nat → Nat → List Char → List Char → Option (List Char)
  | _, _, _, _, label, [] => some label
  | 0, _, _, _, _, _ => none
  | steps + 1, n, i, bias, label, cs => do
    let (delta, cs) ← readIncrement bias 36 1 0 cs
    let size := label.length + 1
    let n := n + (i + delta) / size
    let i := (i + delta) % size
    if !n.isValidChar then none
    else
      place steps n (i + 1) (adapt delta size false)
        (label.take i ++ Char.ofNat n :: label.drop i) cs

def decode (text : List Char) : Option (List Char) :=
  let parts :=
    match text.reverse.idxOf? '-' with
    | some k => (text.take (text.length - k - 1), text.drop (text.length - k))
    | none => ([], text)
  placeAll parts.1 parts.2
where
  /-- The first increment adapts the bias more strongly than the others. -/
  placeAll (basic rest : List Char) : Option (List Char) :=
    match rest with
    | [] => some basic
    | rest => do
      let (delta, cs) ← readIncrement 72 36 1 0 rest
      let size := basic.length + 1
      let n := 128 + delta / size
      let i := delta % size
      if !n.isValidChar then none
      else
        place cs.length n (i + 1) (adapt delta size true)
          (basic.take i ++ Char.ofNat n :: basic.drop i) cs

end DeployPlan.Url.Punycode
