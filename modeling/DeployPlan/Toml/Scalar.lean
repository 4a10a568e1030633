import DeployPlan.Instant
import DeployPlan.Text.Ascii
import DeployPlan.Toml.Tree

/-!
Single values of TOML: dates and times, floating point and whole numbers, truth values. Each reader
gives what stands at the front of a text and the rest; a value that is cut short or out of range leaves
a rest that nothing can follow.
-/

namespace DeployPlan.Toml

open Text (isAsciiDigit)

def expect? (c : Char) : List Char → Option (List Char)
  | [] => none
  | d :: r => if d = c then some r else none

def expectWord? : List Char → List Char → Option (List Char)
  | [], cs => some cs
  | w :: ws, cs => (expect? w cs).bind (expectWord? ws)

def fixedNumber? (count least most : Nat) (cs : List Char) : Option (Nat × List Char) :=
  let ds := cs.take count
  let n := Number.ofDigits ds
  if ds.length = count ∧ ds.all isAsciiDigit ∧ least ≤ n ∧ n ≤ most then some (n, cs.drop count)
  else none

def date? (cs : List Char) : Option (List Char) := do
  let (year, cs) ← fixedNumber? 4 0 9999 cs
  let (month, cs) ← fixedNumber? 2 1 12 (← expect? '-' cs)
  let (_, cs) ← fixedNumber? 2 1 (Instant.daysInMonth year month) (← expect? '-' cs)
  return cs

def time? (cs : List Char) : Option (List Char) := do
  let (_, cs) ← fixedNumber? 2 0 23 cs
  let (_, cs) ← fixedNumber? 2 0 59 (← expect? ':' cs)
  let (_, cs) ← fixedNumber? 2 0 60 (← expect? ':' cs)
  match cs with
  | '.' :: d :: r => return if isAsciiDigit d then r.dropWhile isAsciiDigit else cs
  | _ => return cs

def offset? : List Char → Option (List Char)
  | [] => none
  | c :: cs =>
    if c = 'Z' ∨ c = 'z' then some cs
    else if c = '+' ∨ c = '-' then do
      let (_, cs) ← fixedNumber? 2 0 23 cs
      let (_, cs) ← fixedNumber? 2 0 59 (← expect? ':' cs)
      return cs
    else none

def moment? (cs : List Char) : Option (List Char) :=
  match date? cs with
  | none => time? cs
  | some [] => some []
  | some (c :: r) =>
    if c = 'T' ∨ c = 't' ∨ c = ' ' then
      match time? r with
      | none => some (c :: r)
      | some r => some ((offset? r).getD r)
    else some (c :: r)

/-- Digits, between which single underscores may stand, and the rest. The flag is set behind a
digit. -/
def takeDigits (isDigit : Char → Bool) : Bool → List Char → List Char × List Char
  | _, [] => ([], [])
  | behindDigit, c :: r =>
    if isDigit c then
      let (ds, rest) := takeDigits isDigit true r
      (c :: ds, rest)
    else if c = '_' && behindDigit && r.head?.any isDigit then takeDigits isDigit false r
    else ([], c :: r)

def takeSign : List Char → Bool × List Char
  | [] => (false, [])
  | c :: r => if c = '-' then (true, r) else if c = '+' then (false, r) else (false, c :: r)

def wholeDigits? : List Char → Option (List Char × List Char)
  | [] => none
  | c :: r =>
    if c = '0' then some (['0'], r)
    else if isAsciiDigit c then some (takeDigits isAsciiDigit false (c :: r))
    else none

def someDigits? (isDigit : Char → Bool) (cs : List Char) : Option (List Char × List Char) :=
  let (ds, rest) := takeDigits isDigit false cs
  if ds.isEmpty then none else some (ds, rest)

def exponent? : List Char → Option (Int × List Char)
  | [] => none
  | c :: r =>
    if c = 'e' ∨ c = 'E' then do
      let (negative, r) := takeSign r
      let (ds, rest) ← someDigits? isAsciiDigit r
      let n := Int.ofNat (Number.ofDigits ds)
      return (if negative then -n else n, rest)
    else none

/-- The double nearest to `n * 10 ^ e`. -/
def nearest (n : Nat) (e : Int) : Float :=
  let size : Int := Int.ofNat (Number.digits n).length + e
  if n = 0 ∨ size < -330 then 0
  else if 310 < size then 1 / 0
  else Float.ofScientific n (e < 0) e.natAbs

/-- A number with a point or an exponent, or one that is not finite. What is too large is none. -/
def float? (cs : List Char) : Option (Float × List Char) := do
  let (negative, cs) := takeSign cs
  let signed (f : Float) : Float := if negative then -f else f
  match expectWord? ['i', 'n', 'f'] cs, expectWord? ['n', 'a', 'n'] cs with
  | some rest, _ => return (signed (1 / 0), rest)
  | none, some rest => return (signed (0 / 0), rest)
  | none, none =>
    let (whole, rest) ← wholeDigits? cs
    let (fraction, rest) ←
      match rest with
      | '.' :: r => someDigits? isAsciiDigit r
      | r => if (exponent? r).isSome then some ([], r) else none
    let (e, rest) := (exponent? rest).getD (0, rest)
    let size := nearest (Number.ofDigits (whole ++ fraction)) (e - Int.ofNat fraction.length)
    if size.isInf && !negative then none else return (signed size, rest)

def ofBase (base : Nat) (ds : List Char) : Nat :=
  ds.foldl (fun n c => base * n + (Text.hexValue? c).getD 0) 0

def baseOf? (c : Char) : Option Nat :=
  if c = 'x' then some 16 else if c = 'o' then some 8 else if c = 'b' then some 2 else none

def isDigitOf (base : Nat) (c : Char) : Bool :=
  (Text.hexValue? c).any (· < base)

def decimal? (cs : List Char) : Option (Int × List Char) := do
  let (negative, cs) := takeSign cs
  let (ds, rest) ← wholeDigits? cs
  let n := Number.ofDigits ds
  if negative then
    if n ≤ integerLimit + 1 then return (-Int.ofNat n, rest) else none
  else if n ≤ integerLimit then return (Int.ofNat n, rest)
  else none

def integer? (cs : List Char) : Option (Int × List Char) :=
  match cs with
  | '0' :: c :: r =>
    match baseOf? c with
    | none => decimal? cs
    | some base => do
      let (ds, rest) ← someDigits? (isDigitOf base) r
      let n := ofBase base ds
      if n ≤ integerLimit then return (Int.ofNat n, rest) else none
  | _ => decimal? cs

def scalar? (cs : List Char) : Option (Tree × List Char) :=
  match moment? cs, float? cs, integer? cs with
  | some rest, _, _ => some (.moment, rest)
  | none, some (f, rest), _ => some (.float f, rest)
  | none, none, some (n, rest) => some (.integer n, rest)
  | none, none, none =>
    match expectWord? ['t', 'r', 'u', 'e'] cs, expectWord? ['f', 'a', 'l', 's', 'e'] cs with
    | some rest, _ => some (.bool true, rest)
    | none, some rest => some (.bool false, rest)
    | none, none => none

end DeployPlan.Toml
