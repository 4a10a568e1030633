/-!
Natural numbers in decimal: `digits n` has no leading zero, and `ofDigits` reads it back.
-/

namespace DeployPlan.Number

def digitChar (d : Nat) : Char :=
  Char.ofNat (48 + d)

def digitValue (c : Char) : Nat :=
  c.toNat - 48

def digits (n : Nat) : List Char :=
  if n < 10 then [digitChar n] else digits (n / 10) ++ [digitChar (n % 10)]
termination_by n

def ofDigits (cs : List Char) : Nat :=
  cs.foldl (fun n c => 10 * n + digitValue c) 0

def text (n : Nat) : String :=
  String.ofList (digits n)

def paddedDigits (width n : Nat) : List Char :=
  let ds := digits n
  List.replicate (width - ds.length) '0' ++ ds

theorem digitValue_digitChar : ∀ d, d < 10 → digitValue (digitChar d) = d := by decide

theorem ofDigits_digits (n : Nat) : ofDigits (digits n) = n := by
  rw [digits]
  split
  · next h => simp [ofDigits, digitValue_digitChar n h]
  · have ih := ofDigits_digits (n / 10)
    simp only [ofDigits, List.foldl_append, List.foldl_cons, List.foldl_nil] at ih ⊢
    rw [ih, digitValue_digitChar _ (by omega)]
    omega
termination_by n
decreasing_by omega

end DeployPlan.Number
