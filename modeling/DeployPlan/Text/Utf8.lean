/-!
UTF-8. `encode` writes every character in its shortest form, and `decode?` reads exactly what `encode`
writes: longer forms, surrogates and numbers beyond the last code point are refused.
-/

namespace DeployPlan.Text.Utf8

/-- The bytes of one character. -/
def encodeChar (c : Char) : List UInt8 :=
  let n := c.toNat
  let tail (k : Nat) : UInt8 := UInt8.ofNat (0x80 + n / Nat.pow 64 k % 64)
  if n < 0x80 then [UInt8.ofNat n]
  else if n < 0x800 then [UInt8.ofNat (0xC0 + n / 64), tail 0]
  else if n < 0x10000 then [UInt8.ofNat (0xE0 + n / 4096), tail 1, tail 0]
  else [UInt8.ofNat (0xF0 + n / 262144), tail 2, tail 1, tail 0]

def encode (cs : List Char) : List UInt8 :=
  cs.flatMap encodeChar

def tailBits? (b : UInt8) : Option Nat :=
  if 0x80 ≤ b.toNat ∧ b.toNat < 0xC0 then some (b.toNat - 0x80) else none

/-- A code point of at least `least`, which a shorter form could not hold. -/
def charFrom? (least n : Nat) : Option Char :=
  if h : n.isValidChar then
    if least ≤ n then some (Char.ofNatAux n h) else none
  else none

def decodeChar? : List UInt8 → Option (Char × List UInt8)
  | [] => none
  | a :: rest =>
    let n := a.toNat
    if n < 0x80 then (charFrom? 0 n).map (·, rest)
    else if n < 0xC0 then none
    else if n < 0xE0 then
      match rest with
      | b :: rest => do
        let y ← tailBits? b
        return (← charFrom? 0x80 ((n - 0xC0) * 64 + y), rest)
      | _ => none
    else if n < 0xF0 then
      match rest with
      | b :: c :: rest => do
        let y ← tailBits? b
        let z ← tailBits? c
        return (← charFrom? 0x800 (((n - 0xE0) * 64 + y) * 64 + z), rest)
      | _ => none
    else if n < 0xF8 then
      match rest with
      | b :: c :: d :: rest => do
        let x ← tailBits? b
        let y ← tailBits? c
        let z ← tailBits? d
        return (← charFrom? 0x10000 ((((n - 0xF0) * 64 + x) * 64 + y) * 64 + z), rest)
      | _ => none
    else none

/-- Every character takes a byte at least, so as many steps as there are bytes are enough. -/
def decodeWithin : Nat → List UInt8 → Option (List Char)
  | _, [] => some []
  | 0, _ => none
  | steps + 1, bs =>
    match decodeChar? bs with
    | none => none
    | some (c, rest) => (decodeWithin steps rest).map (c :: ·)

def decode? (bs : List UInt8) : Option (List Char) :=
  decodeWithin bs.length bs

end DeployPlan.Text.Utf8
