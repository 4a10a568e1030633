import DeployPlan.Pattern.CharSet

/-!
Patterns for names.
-/

namespace DeployPlan

namespace Pattern

inductive Edge where
  | start
  | finish
  | lineStart
  | lineFinish
  /-- As `lineStart`, where a carriage return and a line feed end lines, alone or together. -/
  | wideLineStart
  | wideLineFinish
  | wordEdge (chars : CharSet)
  | noWordEdge (chars : CharSet)
  | wordStart (chars : CharSet)
  | wordFinish (chars : CharSet)
  | wordStartHalf (chars : CharSet)
  | wordFinishHalf (chars : CharSet)
deriving DecidableEq, Repr, Inhabited

end Pattern

inductive Pattern where
  | empty
  | one (set : Pattern.CharSet)
  | edge (e : Pattern.Edge)
  | seq (a b : Pattern)
  | alt (a b : Pattern)
  | many (p : Pattern) (least : Nat) (most : Option Nat)
deriving DecidableEq, Repr, Inhabited

namespace Pattern

/-- Storage that a compiled pattern takes, roughly, in bytes. -/
def weight : Pattern → Nat
  | empty => 24
  | one set => set.weight
  | edge _ => 32
  | seq a b => a.weight + b.weight
  | alt a b => a.weight + b.weight + 48
  | many p least most =>
    match most with
    | none => (max least 1) * p.weight + 48
    | some most => most * p.weight + (most - least) * 24

end Pattern

end DeployPlan
