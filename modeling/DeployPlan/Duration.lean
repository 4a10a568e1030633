import DeployPlan.Number.Decimal

/-!
Lengths of time in nanoseconds and their text: the largest unit that gives an integer part of at
least one, and as many decimals as needed. Zero is `0ns`.
-/

namespace DeployPlan

structure Duration where
  nanos : Nat
deriving DecidableEq, Repr, Inhabited

namespace Duration

def ofSeconds (n : Nat) : Duration := ⟨n * 1000000000⟩

def ofMillis (n : Nat) : Duration := ⟨n * 1000000⟩

def scaled (places n : Nat) : List Char :=
  let whole := Number.digits (n / Nat.pow 10 places)
  let fraction := Number.paddedDigits places (n % Nat.pow 10 places)
  let kept := (fraction.reverse.dropWhile (· == '0')).reverse
  if n % Nat.pow 10 places = 0 then whole else whole ++ '.' :: kept

def text (d : Duration) : String :=
  let n := d.nanos
  String.ofList <|
    if n ≥ 1000000000 then scaled 9 n ++ ['s']
    else if n ≥ 1000000 then scaled 6 n ++ ['m', 's']
    else if n ≥ 1000 then scaled 3 n ++ ['µ', 's']
    else scaled 0 n ++ ['n', 's']

end Duration

end DeployPlan
