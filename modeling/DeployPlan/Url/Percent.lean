import DeployPlan.Text.Ascii
import DeployPlan.Text.Utf8

/-!
Percent encoding. A character that a part of an address cannot hold is written as the bytes of its
UTF-8 form, each as a percent sign and two hexadecimal digits. Which characters those are differs from
part to part; characters beyond ASCII always belong to them.
-/

namespace DeployPlan.Url

abbrev EncodeSet : Type := Char → Bool

namespace EncodeSet

def controls : EncodeSet := fun c => c.toNat < 32 || c.toNat ≥ 127

def also (set : EncodeSet) (cs : List Char) : EncodeSet := fun c => set c || cs.contains c

def inFragment : EncodeSet := controls.also [' ', '"', '<', '>', '`']

def inPath : EncodeSet := inFragment.also ['#', '?', '{', '}']

def inUserinfo : EncodeSet := inPath.also ['/', ':', ';', '=', '@', '[', '\\', ']', '^', '|']

def inSegment : EncodeSet := inPath.also ['/', '%']

def inWebSegment : EncodeSet := inSegment.also ['\\']

def inQuery : EncodeSet := controls.also [' ', '"', '#', '<', '>']

def inWebQuery : EncodeSet := inQuery.also [Char.ofNat 39]

def inForm : EncodeSet := fun c =>
  !(Text.isAsciiLetter c || Text.isAsciiDigit c || ['*', '-', '.', '_'].contains c)

end EncodeSet

def encodedByte (b : UInt8) : List Char :=
  ['%', Text.upperHexDigit (b.toNat / 16), Text.upperHexDigit (b.toNat % 16)]

def encodedChar (set : EncodeSet) (c : Char) : List Char :=
  if set c then (Text.Utf8.encodeChar c).flatMap encodedByte else [c]

def percentEncode (set : EncodeSet) (cs : List Char) : List Char :=
  cs.flatMap (encodedChar set)

/-- A percent sign without two digits behind it stands for itself. -/
def percentDecode : List Char → List UInt8
  | [] => []
  | '%' :: a :: b :: rest =>
    match Text.hexValue? a, Text.hexValue? b with
    | some x, some y => UInt8.ofNat (16 * x + y) :: percentDecode rest
    | _, _ => Text.Utf8.encodeChar '%' ++ percentDecode (a :: b :: rest)
  | c :: rest => Text.Utf8.encodeChar c ++ percentDecode rest

def formEncode (cs : List Char) : List Char :=
  cs.flatMap fun c => if c = ' ' then ['+'] else encodedChar .inForm c

end DeployPlan.Url
