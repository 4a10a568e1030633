import DeployPlan.Json.Node
import DeployPlan.Json.Number
import DeployPlan.Number.Shortest
import DeployPlan.Text.Ascii
import DeployPlan.Text.Pieces
import DeployPlan.Unicode.Category

/-!
Why a document is refused, and the text shown for it. A text of the document is shown between quotation
marks, with everything escaped that cannot be seen.
-/

namespace DeployPlan.Text

def hexDigits (n : Nat) : List Char :=
  if n < 16 then [lowerHexDigit n] else hexDigits (n / 16) ++ [lowerHexDigit (n % 16)]
termination_by n

def displayed (c : Char) : List Char :=
  if c = '"' then ['\\', '"']
  else if c = '\\' then ['\\', '\\']
  else if c = '\n' then ['\\', 'n']
  else if c = '\r' then ['\\', 'r']
  else if c = '\t' then ['\\', 't']
  else if c.toNat = 0 then ['\\', '0']
  else if Unicode.extendsGrapheme c.toNat || !Unicode.isPrintable c.toNat then
    '\\' :: 'u' :: '{' :: (hexDigits c.toNat ++ ['}'])
  else [c]

def quotedForDisplay (s : String) : String :=
  String.ofList ('"' :: (s.toList.flatMap displayed ++ ['"']))

end DeployPlan.Text

namespace DeployPlan.Json

inductive Found where
  | null
  | bool (b : Bool)
  | integer (n : Int)
  | float (spelled : String)
  | text (s : String)
  | list
  | object
deriving DecidableEq, Repr, Inhabited

inductive Problem where
  | fault (f : Fault)
  | wrongType (found : Found) (wanted : String)
  | wrongValue (found : Found) (wanted : String)
  | wrongLength (length : Nat) (wanted : String)
  | missingField (name : String)
  | duplicateField (name : String)
  | unknownVariant (name : String) (known : List String)
  | other (text : String)
deriving DecidableEq, Repr, Inhabited

def marked (s : String) : String :=
  "`" ++ s ++ "`"

def Found.describe : Found → String
  | .null => "null"
  | .bool b => "boolean " ++ marked (if b then "true" else "false")
  | .integer n =>
    "integer " ++
      marked (String.ofList (if n < 0 then '-' :: Number.digits n.natAbs else Number.digits n.natAbs))
  | .float s => "floating point " ++ marked s
  | .text s => "string " ++ Text.quotedForDisplay s
  | .list => "sequence"
  | .object => "map"

def Fault.message : Fault → String
  | .malformed => "<syntax>"
  | .truncated => "<eof>"

def Problem.message : Problem → String
  | .fault f => f.message
  | .wrongType f w => "invalid type: " ++ f.describe ++ ", expected " ++ w
  | .wrongValue f w => "invalid value: " ++ f.describe ++ ", expected " ++ w
  | .wrongLength n w => "invalid length " ++ Number.text n ++ ", expected " ++ w
  | .missingField n => "missing field " ++ marked n
  | .duplicateField n => "duplicate field " ++ marked n
  | .unknownVariant n known =>
    "unknown variant " ++ marked n ++ ", expected one of " ++ Text.join ", " (known.map marked)
  | .other t => t

end DeployPlan.Json
