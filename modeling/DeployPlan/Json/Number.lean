import DeployPlan.Json.Value

/-!
What a spelled number stands for. Whole numbers that fit 64 bits are exact. All others are doubles,
made from the leading digits that fit 64 bits by scaling with powers of ten; a double that would be
infinite has no value.
-/

namespace DeployPlan.Json

inductive Amount where
  | natural (n : Nat)
  | negative (n : Int)
  | float (f : Float)
  | outOfRange

namespace NumberText

def fits (limit n d : Nat) : Bool :=
  n * 10 + d ≤ limit

def wordLimit : Nat := 18446744073709551615

/-- The significand of the whole part, and how many of its digits were left out. -/
def significand (n : Nat) : List Char → Nat × Nat
  | [] => (n, 0)
  | c :: cs =>
    let d := Number.digitValue c
    if fits wordLimit n d then significand (n * 10 + d) cs else (n, cs.length + 1)

def withFraction (n used : Nat) : List Char → Nat × Nat
  | [] => (n, used)
  | c :: cs =>
    let d := Number.digitValue c
    if fits wordLimit n d then withFraction (n * 10 + d) (used + 1) cs else (n, used)

/-- `f * 10 ^ e`, in steps that each round. -/
def scale (f : Float) (e : Int) : Nat → Option Float
  | 0 => some f
  | fuel + 1 =>
    if e.natAbs ≤ 308 then
      let power := Float.ofScientific 1 false e.natAbs
      if e ≥ 0 then
        let r := f * power
        if r.isInf then none else some r
      else some (f / power)
    else if f == 0 then some f
    else if e ≥ 0 then none
    else scale (f / 1e308) (e + 308) fuel

def signed (negative : Bool) (f : Float) : Float :=
  if negative then -f else f

def double (n : NumberText) : Amount :=
  let (s, dropped) := significand 0 n.whole
  let (s, used) := withFraction s 0 n.fraction
  let base : Int := Int.ofNat dropped - Int.ofNat used
  let make (e : Int) : Amount :=
    match scale (Float.ofNat s) e 64 with
    | some f => .float (signed n.negative f)
    | none => .outOfRange
  match n.exponent with
  | none => make base
  | some (down, ds) =>
    let e := Number.ofDigits ds
    if e ≥ 2147483648 then
      if s ≠ 0 ∧ !down then .outOfRange else .float (signed n.negative 0)
    else make (if down then base - Int.ofNat e else base + Int.ofNat e)

def amount (n : NumberText) : Amount :=
  if n.integral then
    let size := Number.ofDigits n.whole
    if n.negative then
      if size ≠ 0 ∧ size ≤ 9223372036854775808 then .negative (-Int.ofNat size) else n.double
    else if size ≤ wordLimit then .natural size
    else n.double
  else n.double

end NumberText

end DeployPlan.Json
