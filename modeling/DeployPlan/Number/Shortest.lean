import DeployPlan.Number.Decimal

/-!
The shortest decimal that reads back as a given double. A finite positive double is `m * 2 ^ q`; the
decimals that round to it fill an interval around it whose ends belong to it when `m` is even. On the
grid of one digit, of two digits and so on, the two neighbours of the value are tried; the first grid
with a hit wins, and of two hits the nearer one.
-/

namespace DeployPlan.Number

/-- `0.d₁d₂…dₙ * 10 ^ point`. -/
structure Digits where
  digits : List Char
  point : Int
deriving DecidableEq, Repr, Inhabited

structure Ratio where
  num : Nat
  den : Nat

def scaledByTwo (m : Nat) (q : Int) : Ratio :=
  if q ≥ 0 then ⟨m * Nat.pow 2 q.toNat, 1⟩ else ⟨m, Nat.pow 2 (-q).toNat⟩

def Ratio.lt (a b : Ratio) : Bool := a.num * b.den < b.num * a.den

def pointOf (r : Ratio) (guess : Int) : Nat → Int
  | 0 => guess
  | fuel + 1 =>
    let power (k : Int) : Ratio := if k ≥ 0 then ⟨Nat.pow 10 k.toNat, 1⟩ else ⟨1, Nat.pow 10 (-k).toNat⟩
    if !r.lt (power guess) then pointOf r (guess + 1) fuel
    else if r.lt (power (guess - 1)) then pointOf r (guess - 1) fuel
    else guess

/-- The shortest digits of `m * 2 ^ q`, where `wide` says that the lower neighbour is only half as
far away as the upper one. -/
def shortest (m : Nat) (q : Int) (wide : Bool) : Digits :=
  -- in units of a quarter of the last place
  let value := scaledByTwo (4 * m) (q - 2)
  let low := scaledByTwo (4 * m - (if wide then 1 else 2)) (q - 2)
  let high := scaledByTwo (4 * m + 2) (q - 2)
  let closed := m % 2 == 0
  let point := pointOf value ((Int.ofNat (Nat.log2 m) + q) * 30103 / 100000 + 1) 8
  search value low high closed point 1 18
where
  inside (low high : Ratio) (closed : Bool) (n : Nat) (e : Int) : Bool :=
    let r : Ratio := if e ≥ 0 then ⟨n * Nat.pow 10 e.toNat, 1⟩ else ⟨n, Nat.pow 10 (-e).toNat⟩
    (low.lt r && r.lt high) || (closed && (!low.lt r && !r.lt low || !high.lt r && !r.lt high))
  search (value low high : Ratio) (closed : Bool) (point : Int) (count : Nat) : Nat → Digits
    | 0 => ⟨['0'], 0⟩
    | fuel + 1 =>
      let e := point - count
      let scaled : Ratio :=
        if e ≥ 0 then ⟨value.num, value.den * Nat.pow 10 e.toNat⟩
        else ⟨value.num * Nat.pow 10 (-e).toNat, value.den⟩
      let below := scaled.num / scaled.den
      let lowHit := below > 0 && inside low high closed below e
      let highHit := inside low high closed (below + 1) e
      let twice := 2 * (scaled.num % scaled.den)
      let nearerLow := twice < scaled.den || (twice == scaled.den && below % 2 == 0)
      let pick (n : Nat) : Digits :=
        let ds := digits n
        let kept := (ds.reverse.dropWhile (· == '0')).reverse
        ⟨kept, e + ds.length⟩
      if lowHit && (nearerLow || !highHit) then pick below
      else if highHit then pick (below + 1)
      else search value low high closed point (count + 1) fuel

inductive Size where
  | infinite
  | notANumber
  | zero
  | finite (d : Digits)

def signAndSize (f : Float) : Bool × Size :=
  let bits := f.toBits.toNat
  let negative := bits / Nat.pow 2 63 == 1
  let e := bits / Nat.pow 2 52 % 2048
  let frac := bits % Nat.pow 2 52
  let size :=
    if e == 2047 then (if frac == 0 then .infinite else .notANumber)
    else if e == 0 then (if frac == 0 then .zero else .finite (shortest frac (-1074) false))
    else .finite (shortest (Nat.pow 2 52 + frac) (Int.ofNat e - 1075) (frac == 0 && e > 1))
  (negative, size)

/-- Positional notation, with a point and at least one digit on both sides of it. -/
def positional (d : Digits) : List Char :=
  if d.point ≤ 0 then '0' :: '.' :: (List.replicate (-d.point).toNat '0' ++ d.digits)
  else
    let n := d.point.toNat
    if d.digits.length ≤ n then d.digits ++ List.replicate (n - d.digits.length) '0' ++ ['.', '0']
    else d.digits.take n ++ '.' :: d.digits.drop n

/-- Scientific notation with a signed exponent of at least two digits. -/
def scientific (d : Digits) : List Char :=
  let e := d.point - 1
  let mantissa :=
    match d.digits with
    | [] => ['0']
    | [c] => [c]
    | c :: cs => c :: '.' :: cs
  mantissa ++ 'e' :: (if e < 0 then '-' else '+') :: paddedDigits 2 e.natAbs

def floatText (finite : Digits → List Char) (f : Float) : String :=
  match signAndSize f with
  | (_, .notANumber) => "NaN"
  | (negative, size) =>
    let body :=
      match size with
      | .infinite => ['i', 'n', 'f']
      | .finite d => finite d
      | _ => ['0', '.', '0']
    String.ofList (if negative then '-' :: body else body)

def positionalText (f : Float) : String :=
  floatText positional f

/-- Positional from 0.00001 up to below 10^16, else scientific. -/
def compactText (f : Float) : String :=
  floatText (fun d => if -5 < d.point ∧ d.point ≤ 16 then positional d else scientific d) f

end DeployPlan.Number
