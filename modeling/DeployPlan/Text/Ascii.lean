/-!
Upper and lower case of the twenty-six basic letters. Every other character stays as it is.
-/

namespace DeployPlan.Text

def lowerAscii (c : Char) : Char :=
  if 'A' ≤ c ∧ c ≤ 'Z' then Char.ofNat (c.toNat + 32) else c

def lowerCase (s : String) : String :=
  String.ofList (s.toList.map lowerAscii)

/-- Equal up to the case of basic letters. -/
def sameIgnoringCase (s t : String) : Bool :=
  lowerCase s == lowerCase t

def isAsciiLetter (c : Char) : Bool :=
  ('a' ≤ c && c ≤ 'z') || ('A' ≤ c && c ≤ 'Z')

def isAsciiDigit (c : Char) : Bool :=
  '0' ≤ c && c ≤ '9'

def hexValue? (c : Char) : Option Nat :=
  if '0' ≤ c ∧ c ≤ '9' then some (c.toNat - 48)
  else if 'a' ≤ c ∧ c ≤ 'f' then some (c.toNat - 87)
  else if 'A' ≤ c ∧ c ≤ 'F' then some (c.toNat - 55)
  else none

def lowerHexDigit (n : Nat) : Char :=
  if n < 10 then Char.ofNat (48 + n) else Char.ofNat (87 + n)

def upperHexDigit (n : Nat) : Char :=
  if n < 10 then Char.ofNat (48 + n) else Char.ofNat (55 + n)

theorem hexValue?_lowerHexDigit : ∀ n, n < 16 → hexValue? (lowerHexDigit n) = some n := by decide

theorem hexValue?_upperHexDigit : ∀ n, n < 16 → hexValue? (upperHexDigit n) = some n := by decide

end DeployPlan.Text
