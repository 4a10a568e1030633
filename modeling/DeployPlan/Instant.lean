import DeployPlan.Number.Decimal
import DeployPlan.Text.Ascii
import DeployPlan.Text.Pieces

/-!
Points in time, as nanoseconds since the start of 1970, and their text: date and time of day in UTC
with 0, 3, 6 or 9 decimals of a second. Reading also takes other offsets and is lenient about blanks.
-/

namespace DeployPlan

structure Instant where
  seconds : Int
  nanos : Nat
deriving DecidableEq, Repr, Inhabited

namespace Instant

def daysFromDate (year : Int) (month day : Nat) : Int :=
  let y := if month ≤ 2 then year - 1 else year
  let era := y.fdiv 400
  let yearOfEra := y - era * 400
  let shifted : Int := Int.ofNat ((month + 9) % 12)
  let dayOfYear := (153 * shifted + 2) / 5 + Int.ofNat day - 1
  let dayOfEra := yearOfEra * 365 + yearOfEra / 4 - yearOfEra / 100 + dayOfYear
  era * 146097 + dayOfEra - 719468

def dateFromDays (days : Int) : Int × Nat × Nat :=
  let z := days + 719468
  let era := z.fdiv 146097
  let dayOfEra := z - era * 146097
  let yearOfEra := (dayOfEra - dayOfEra / 1460 + dayOfEra / 36524 - dayOfEra / 146096) / 365
  let dayOfYear := dayOfEra - (365 * yearOfEra + yearOfEra / 4 - yearOfEra / 100)
  let shifted := (5 * dayOfYear + 2) / 153
  let day := dayOfYear - (153 * shifted + 2) / 5 + 1
  let month := if shifted < 10 then shifted + 3 else shifted - 9
  let year := yearOfEra + era * 400 + (if month ≤ 2 then 1 else 0)
  (year, month.toNat, day.toNat)

def isLeap (year : Int) : Bool :=
  year.fmod 4 == 0 && (year.fmod 100 != 0 || year.fmod 400 == 0)

def daysInMonth (year : Int) (month : Nat) : Nat :=
  if month = 2 then (if isLeap year then 29 else 28)
  else if month = 4 ∨ month = 6 ∨ month = 9 ∨ month = 11 then 30
  else 31

/-- A leap second is kept as a second with more than 10^9 nanoseconds. -/
def text (t : Instant) : String :=
  let days := t.seconds.fdiv 86400
  let ofDay := (t.seconds - days * 86400).toNat
  let (year, month, day) := dateFromDays days
  let two := Number.paddedDigits 2
  let yearText :=
    if 0 ≤ year ∧ year ≤ 9999 then Number.paddedDigits 4 year.toNat
    else (if year < 0 then '-' else '+') :: Number.paddedDigits 4 year.natAbs
  let (leap, nanos) := if t.nanos ≥ 1000000000 then (1, t.nanos - 1000000000) else (0, t.nanos)
  let fraction :=
    if nanos = 0 then []
    else if nanos % 1000000 = 0 then '.' :: Number.paddedDigits 3 (nanos / 1000000)
    else if nanos % 1000 = 0 then '.' :: Number.paddedDigits 6 (nanos / 1000)
    else '.' :: Number.paddedDigits 9 nanos
  String.ofList <|
    yearText ++ '-' :: two month ++ '-' :: two day ++ 'T' :: two (ofDay / 3600) ++
      ':' :: two (ofDay / 60 % 60) ++ ':' :: two (ofDay % 60 + leap) ++ fraction ++ ['Z']

inductive Unreadable where
  | tooShort
  | invalid
  | outOfRange
  | tooLong
  | impossible
deriving DecidableEq, Repr

def Unreadable.message : Unreadable → String
  | .tooShort => "premature end of input"
  | .invalid => "input contains invalid characters"
  | .outOfRange => "input is out of range"
  | .tooLong => "trailing input"
  | .impossible => "no possible date and time matching input"

abbrev Reader (α : Type) := List Char → Except Unreadable (α × List Char)

def skipBlank (cs : List Char) : List Char :=
  Text.trimStartChars cs

/-- Between `least` and `most` digits. -/
def number (least most : Nat) : Reader Nat := fun cs =>
  let ds := (cs.take most).takeWhile Text.isAsciiDigit
  if ds.length < least then .error (if ds.length = cs.length then .tooShort else .invalid)
  else .ok (Number.ofDigits ds, cs.drop ds.length)

def allDigits : Reader Nat := fun cs =>
  number 1 cs.length cs

/-- A year of four digits, or of any number of digits behind a sign. -/
def year : Reader Int := fun cs => do
  let (y, rest) ←
    match skipBlank cs with
    | '-' :: cs => (allDigits cs).map fun (n, r) => (-Int.ofNat n, r)
    | '+' :: cs => (allDigits cs).map fun (n, r) => (Int.ofNat n, r)
    | cs => (number 1 4 cs).map fun (n, r) => (Int.ofNat n, r)
  if y.natAbs ≥ 2147483648 then throw .outOfRange
  return (y, rest)

def twoDigits (least most : Nat) : Reader Nat := fun cs => do
  let (n, rest) ← number 1 2 (skipBlank cs)
  if n < least ∨ most < n then throw .outOfRange
  return (n, rest)

def mark (c : Char) : Reader Unit := fun cs =>
  match skipBlank cs with
  | [] => .error .tooShort
  | d :: rest => if c = d then .ok ((), rest) else .error .invalid

/-- Decimals of a second; digits behind the ninth do not count. -/
def fraction : Reader Nat
  | '.' :: cs => do
    let (_, rest) ← allDigits cs
    let nine := (cs.take (cs.length - rest.length)).take 9
    return (Number.ofDigits nine * Nat.pow 10 (9 - nine.length), rest)
  | cs => .ok (0, cs)

def digitPair : Reader Nat
  | a :: b :: rest =>
    if Text.isAsciiDigit a && Text.isAsciiDigit b then .ok (Number.ofDigits [a, b], rest)
    else .error .invalid
  | _ => .error .tooShort

def offset : Reader Int := fun cs =>
  match cs with
  | [] => .error .tooShort
  | c :: rest =>
    if (cs.take 3).map Text.lowerAscii = ['u', 't', 'c'] then .ok (0, cs.drop 3)
    else if c = 'Z' ∨ c = 'z' then .ok (0, rest)
    else if c = '+' ∨ c = '-' ∨ c = '−' then do
      let (hours, rest) ← digitPair rest
      let rest := rest.dropWhile fun c => c = ':' || Text.isBlank c
      let (minutes, rest) ← digitPair rest
      if minutes > 59 then throw .outOfRange
      let size : Int := Int.ofNat (hours * 3600 + minutes * 60)
      return (if c = '+' then size else -size, rest)
    else .error .invalid

def yearLimit : Nat := 262142

def read (s : String) : Except Unreadable Instant := do
  let (y, cs) ← year s.toList
  let ((), cs) ← mark '-' cs
  let (month, cs) ← twoDigits 1 12 cs
  let ((), cs) ← mark '-' cs
  let (day, cs) ← twoDigits 1 31 cs
  let cs ←
    match cs with
    | [] => throw .tooShort
    | c :: r => if c = 'T' ∨ c = 't' ∨ c = ' ' then pure r else throw .invalid
  let (hour, cs) ← twoDigits 0 23 cs
  let ((), cs) ← mark ':' cs
  let (minute, cs) ← twoDigits 0 59 cs
  let ((), cs) ← mark ':' cs
  let (second, cs) ← twoDigits 0 60 cs
  let (nanos, cs) ← fraction cs
  let (east, cs) ← offset (skipBlank cs)
  if !(skipBlank cs).isEmpty then throw .tooLong
  if y.natAbs > yearLimit ∨ day > daysInMonth y month ∨ east.natAbs ≥ 86400 then throw .outOfRange
  let (second, nanos) := if second = 60 then (59, nanos + 1000000000) else (second, nanos)
  let atPlace :=
    daysFromDate y month day * 86400 + Int.ofNat (hour * 3600 + minute * 60 + second)
  return ⟨atPlace - east, nanos⟩

end Instant

end DeployPlan
