import DeployPlan.Number.Decimal
import DeployPlan.Text.Pieces
import DeployPlan.Unicode.CaseFolding
import DeployPlan.Unicode.Category
import DeployPlan.Url.Percent
import DeployPlan.Url.Punycode

/-!
Hosts of addresses: names, IPv4 and IPv6 addresses. Names of the web are in lower case, with labels
beyond ASCII in Punycode; a name that ends in a number is an IPv4 address or nothing.
-/

namespace DeployPlan.Url

inductive Host where
  | name (text : String)
  | ipv4 (address : Nat)
  | ipv6 (groups : List Nat)
deriving DecidableEq, Repr, Inhabited

inductive ParseError where
  | relative
  | emptyHost
  | badPort
  | badIpv6
  | badIpv4
  | badDomain
  | badHostChar
deriving DecidableEq, Repr, Inhabited

def ParseError.message : ParseError → String
  | .relative => "relative URL without a base"
  | .emptyHost => "empty host"
  | .badPort => "invalid port number"
  | .badIpv6 => "invalid IPv6 address"
  | .badIpv4 => "invalid IPv4 address"
  | .badDomain => "invalid international domain name"
  | .badHostChar => "invalid domain character"

namespace Host

/-! Names -/

def forbidden (c : Char) : Bool :=
  c.toNat ≤ 32 || c.toNat = 127 ||
    ['%', '#', '/', ':', '<', '>', '?', '@', '[', '\\', ']', '^', '|'].contains c

def ignored (n : Nat) : Bool :=
  n = 0xAD || n = 0x34F || (0x180B ≤ n && n ≤ 0x180F && n ≠ 0x180E) || n = 0x200B || n = 0x2060 ||
    n = 0x2064 || (0xFE00 ≤ n && n ≤ 0xFE0F) || n = 0xFEFF

/-- Capitals become small, wide forms narrow, and other full stops dots. -/
def mapped (c : Char) : List Char :=
  let n := c.toNat
  if n < 128 then [Text.lowerAscii c]
  else if ignored n then []
  else if n = 0x3002 || n = 0xFF61 then ['.']
  else if 0xFF01 ≤ n && n ≤ 0xFF5E then [Text.lowerAscii (Char.ofNat (n - 0xFEE0))]
  else if Unicode.isUppercase n || Unicode.Category.ofCode n = .titleLetter then
    [Char.ofNat (Unicode.foldCode n)]
  else [c]

def permitted (n : Nat) : Bool :=
  Unicode.isPrintable n && !Unicode.isUppercase n

def validLabel (label : List Char) : Bool :=
  label.all (fun c => c.toNat < 128 || permitted c.toNat) &&
    !(label.head?.any fun c => Unicode.isMark c.toNat)

def punycodeMark : List Char := ['x', 'n', '-', '-']

/-- A label in ASCII. A label that is in Punycode already has to stand for a valid one. -/
def asciiLabel? (label : List Char) : Option (List Char) :=
  if punycodeMark.isPrefixOf label then do
    let meant ← Punycode.decode (label.drop 4)
    if label.all (·.toNat < 128) && meant.any (·.toNat ≥ 128) && validLabel meant &&
        Punycode.encode meant == label.drop 4 then
      return label
    else none
  else if label.all (·.toNat < 128) then some label
  else if validLabel label then some (punycodeMark ++ Punycode.encode label)
  else none

def asciiName? (cs : List Char) : Option (List Char) :=
  let cs := cs.flatMap mapped
  if cs.any forbidden then none
  else ((Text.piecesBy (· == '.') cs).mapM asciiLabel?).map (Text.joinChars ['.'])

/-! IPv4 -/

def number? (cs : List Char) : Option Nat :=
  let value (base : Nat) (cs : List Char) : Option Nat :=
    cs.foldlM (fun n c => do
      let d ← Text.hexValue? c
      if d < base then return base * n + d else none) 0
  match cs with
  | [] => none
  | '0' :: 'x' :: ds => value 16 ds
  | '0' :: 'X' :: ds => value 16 ds
  | '0' :: ds => value 8 ds
  | ds => value 10 ds

def dotPieces (cs : List Char) : List (List Char) :=
  let ps := Text.piecesBy (· == '.') cs
  if ps.length > 1 && ps.getLast? == some [] then ps.dropLast else ps

def endsInNumber (cs : List Char) : Bool :=
  match (dotPieces cs).getLast? with
  | none => false
  | some p => (!p.isEmpty && p.all Text.isAsciiDigit) || (number? p).isSome

/-- The last number fills all places that the others leave. -/
def ipv4? (cs : List Char) : Option Nat := do
  let ps := dotPieces cs
  let ns ← ps.mapM number?
  let last ← ns.getLast?
  let front := ns.dropLast
  if ps.length > 4 || last ≥ Nat.pow 256 (5 - ps.length) || front.any (· > 255) then none
  else
    let add : Nat × Nat → Nat → Nat × Nat
      | (sum, place), n => (sum + n * Nat.pow 256 place, place - 1)
    return (front.foldl add (last, 3)).1

/-! IPv6 -/

def hexGroup (cs : List Char) : Nat × List Char × Nat :=
  let ds := (cs.take 4).takeWhile fun c => (Text.hexValue? c).isSome
  (ds.foldl (fun n c => 16 * n + (Text.hexValue? c).getD 0) 0, cs.drop ds.length, ds.length)

def byte? (cs : List Char) : Option Nat :=
  match cs with
  | [] => none
  | ['0'] => some 0
  | '0' :: _ => none
  | ds =>
    if ds.all Text.isAsciiDigit && ds.length ≤ 3 && Number.ofDigits ds ≤ 255 then
      some (Number.ofDigits ds)
    else none

def embedded? (cs : List Char) : Option (List Nat) :=
  match Text.piecesBy (· == '.') cs with
  | [a, b, c, d] => do
    return [256 * (← byte? a) + (← byte? b), 256 * (← byte? c) + (← byte? d)]
  | _ => none

/-- Reads groups; `gap` is the place of the double colon, if there was one. -/
def groups? : Nat → List Nat → Option Nat → List Char → Option (List Nat × Option Nat)
  | _, groups, gap, [] => some (groups, gap)
  | 0, _, _, _ => none
  | steps + 1, groups, gap, ':' :: cs =>
    if gap.isSome || groups.length ≥ 8 then none
    else groups? steps (groups ++ [0]) (some (groups.length + 1)) cs
  | steps + 1, groups, gap, cs =>
    if groups.length ≥ 8 then none
    else
      match hexGroup cs with
      | (n, [], _) => some (groups ++ [n], gap)
      | (n, ':' :: rest, _) => if rest.isEmpty then none else groups? steps (groups ++ [n]) gap rest
      | (_, '.' :: _, digits) =>
        if digits = 0 || groups.length > 6 then none
        else (embedded? cs).map fun two => (groups ++ two, gap)
      | _ => none

/-- Eight groups. At the double colon stand as many zeros as are missing. -/
def ipv6? (cs : List Char) : Option (List Nat) := do
  let (groups, gap) ←
    match cs with
    | ':' :: ':' :: rest => groups? rest.length [0] (some 1) rest
    | ':' :: _ => none
    | [] => none
    | [_] => none
    | cs => groups? cs.length [] none cs
  match gap with
  | none => if groups.length = 8 then return groups else none
  | some k =>
    if groups.length > 8 then none
    else return groups.take k ++ List.replicate (8 - groups.length) 0 ++ groups.drop k

def hexText (n : Nat) : List Char :=
  if n < 16 then [Text.lowerHexDigit n] else hexText (n / 16) ++ [Text.lowerHexDigit (n % 16)]
termination_by n

def zeros : List Nat → Nat
  | 0 :: ns => zeros ns + 1
  | _ => 0

def longestZeros (place : Nat) (best : Nat × Nat) : List Nat → Nat × Nat
  | [] => best
  | n :: ns =>
    let run := zeros (n :: ns)
    longestZeros (place + 1) (if run > best.2 then (place, run) else best) ns

/-- Runs of at least two zeros are left out once. -/
def ipv6Text (groups : List Nat) : List Char :=
  let text (ns : List Nat) := Text.joinChars [':'] (ns.map hexText)
  match longestZeros 0 (0, 1) groups with
  | (_, 1) => text groups
  | (k, run) => text (groups.take k) ++ ':' :: ':' :: text (groups.drop (k + run))

/-! Hosts -/

def chars : Host → List Char
  | .name s => s.toList
  | .ipv4 n =>
    Text.joinChars ['.'] ([3, 2, 1, 0].map fun k => Number.digits (n / Nat.pow 256 k % 256))
  | .ipv6 groups => '[' :: (ipv6Text groups ++ [']'])

def bracketed (cs : List Char) : Except ParseError Host :=
  if cs.getLast? = some ']' then
    match ipv6? cs.dropLast with
    | some groups => .ok (.ipv6 groups)
    | none => .error .badIpv6
  else .error .badIpv6

def ofWeb (cs : List Char) : Except ParseError Host :=
  match cs with
  | '[' :: rest => bracketed rest
  | cs =>
    match (Text.Utf8.decode? (percentDecode cs)).bind asciiName? with
    | none => .error .badDomain
    | some [] => .error .emptyHost
    | some ascii =>
      if endsInNumber ascii then
        match ipv4? ascii with
        | some n => .ok (.ipv4 n)
        | none => .error .badIpv4
      else .ok (.name (String.ofList ascii))

def forbiddenElsewhere (c : Char) : Bool :=
  [0, 9, 10, 13].contains c.toNat ||
    [' ', '#', '/', ':', '<', '>', '?', '@', '[', '\\', ']', '^', '|'].contains c

def ofOther (cs : List Char) : Except ParseError Host :=
  match cs with
  | '[' :: rest => bracketed rest
  | cs =>
    if cs.any forbiddenElsewhere then .error .badHostChar
    else .ok (.name (String.ofList (percentEncode .controls cs)))

end Host

end DeployPlan.Url
