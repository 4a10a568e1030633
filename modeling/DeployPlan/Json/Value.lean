import DeployPlan.Number.Decimal

/-!
JSON values. A number is kept as it is spelled, so that reading one loses nothing; an object keeps
the order of its members and may repeat a name.
-/

namespace DeployPlan.Json

structure NumberText where
  negative : Bool := false
  whole : List Char
  fraction : List Char := []
  exponent : Option (Bool × List Char) := none
deriving DecidableEq, Repr, Inhabited

def NumberText.integral (n : NumberText) : Bool :=
  n.fraction.isEmpty && n.exponent.isNone

def NumberText.chars (n : NumberText) : List Char :=
  (if n.negative then ['-'] else []) ++ n.whole ++
    (if n.fraction.isEmpty then [] else '.' :: n.fraction) ++
    (match n.exponent with
      | none => []
      | some (negative, ds) => 'e' :: (if negative then '-' :: ds else ds))

inductive Value where
  | null
  | bool (b : Bool)
  | number (n : NumberText)
  | text (s : String)
  | list (items : List Value)
  | object (members : List (String × Value))
deriving Repr, Inhabited

namespace Value

def nat (n : Nat) : Value :=
  .number { whole := Number.digits n }

def int (n : Int) : Value :=
  .number { negative := n < 0, whole := Number.digits n.natAbs }

def word (n : UInt64) : Value :=
  nat n.toNat

def option {α : Type} (f : α → Value) : Option α → Value
  | none => null
  | some a => f a

def listOf {α : Type} (f : α → Value) (as : List α) : Value :=
  list (as.map f)

def texts (ss : List String) : Value :=
  listOf text ss

def member (v : Value) (name : String) : Value :=
  match v with
  | object members => (members.lookup name).getD null
  | _ => null

def asText? : Value → Option String
  | text s => some s
  | _ => none

def asBool? : Value → Option Bool
  | bool b => some b
  | _ => none

def asNat? : Value → Option Nat
  | number n => if n.integral && !n.negative then some (Number.ofDigits n.whole) else none
  | _ => none

def asList? : Value → Option (List Value)
  | list items => some items
  | _ => none

def isNull : Value → Bool
  | null => true
  | _ => false

mutual
def withoutNulls : Value → Value
  | object members => object (membersWithoutNulls members)
  | list items => list (itemsWithoutNulls items)
  | v => v

def itemsWithoutNulls : List Value → List Value
  | [] => []
  | v :: vs => v.withoutNulls :: itemsWithoutNulls vs

def membersWithoutNulls : List (String × Value) → List (String × Value)
  | [] => []
  | (k, v) :: ms =>
    if v.isNull then membersWithoutNulls ms else (k, v.withoutNulls) :: membersWithoutNulls ms
end

end Value

end DeployPlan.Json
