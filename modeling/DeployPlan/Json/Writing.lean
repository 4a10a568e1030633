import DeployPlan.Json.Value
import DeployPlan.Text.Ascii

/-!
Writing JSON, in one line without blanks or indented by two blanks a level. In a text the quotation
mark, the backslash and the control characters are escaped; every other character stands for itself.
-/

namespace DeployPlan.Json

def escaped (c : Char) : List Char :=
  if c = '"' then ['\\', '"']
  else if c = '\\' then ['\\', '\\']
  else if c.toNat = 8 then ['\\', 'b']
  else if c.toNat = 12 then ['\\', 'f']
  else if c = '\n' then ['\\', 'n']
  else if c = '\r' then ['\\', 'r']
  else if c = '\t' then ['\\', 't']
  else if c.toNat < 32 then
    ['\\', 'u', '0', '0', Text.lowerHexDigit (c.toNat / 16), Text.lowerHexDigit (c.toNat % 16)]
  else [c]

def escapedChars : List Char → List Char
  | [] => []
  | c :: cs => escaped c ++ escapedChars cs

def quoted (s : String) : List Char :=
  '"' :: (escapedChars s.toList ++ ['"'])

def writeBool (b : Bool) : List Char :=
  if b then ['t', 'r', 'u', 'e'] else ['f', 'a', 'l', 's', 'e']

mutual
def compact : Value → List Char
  | .null => ['n', 'u', 'l', 'l']
  | .bool b => writeBool b
  | .number n => n.chars
  | .text s => quoted s
  | .list [] => ['[', ']']
  | .list (v :: vs) => '[' :: (compact v ++ compactItems vs)
  | .object [] => ['{', '}']
  | .object ((k, v) :: ms) => '{' :: (quoted k ++ ':' :: (compact v ++ compactMembers ms))

def compactItems : List Value → List Char
  | [] => [']']
  | v :: vs => ',' :: (compact v ++ compactItems vs)

def compactMembers : List (String × Value) → List Char
  | [] => ['}']
  | (k, v) :: ms => ',' :: (quoted k ++ ':' :: (compact v ++ compactMembers ms))
end

def newLine (level : Nat) : List Char :=
  '\n' :: List.replicate (2 * level) ' '

mutual
/-- One item or member a line, two blanks a level, empty containers closed at once. -/
def indented (level : Nat) : Value → List Char
  | .null => ['n', 'u', 'l', 'l']
  | .bool b => writeBool b
  | .number n => n.chars
  | .text s => quoted s
  | .list [] => ['[', ']']
  | .list (v :: vs) =>
    '[' :: (newLine (level + 1) ++ indented (level + 1) v ++ indentedItems level vs)
  | .object [] => ['{', '}']
  | .object ((k, v) :: ms) =>
    '{' :: (newLine (level + 1) ++ quoted k ++ ':' :: ' ' :: indented (level + 1) v ++
      indentedMembers level ms)

def indentedItems (level : Nat) : List Value → List Char
  | [] => newLine level ++ [']']
  | v :: vs => ',' :: (newLine (level + 1) ++ indented (level + 1) v ++ indentedItems level vs)

def indentedMembers (level : Nat) : List (String × Value) → List Char
  | [] => newLine level ++ ['}']
  | (k, v) :: ms =>
    ',' :: (newLine (level + 1) ++ quoted k ++ ':' :: ' ' :: indented (level + 1) v ++
      indentedMembers level ms)
end

def Value.compactText (v : Value) : String :=
  String.ofList (compact v)

def Value.indentedText (v : Value) : String :=
  String.ofList (indented 0 v)

end DeployPlan.Json
