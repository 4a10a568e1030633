import DeployPlan.Pattern.Basic

/-!
Searching for a pattern. A step by a character turns a pattern into patterns for what follows it;
after each character all patterns that are still alive are known. Whether a pattern needs no further
character depends on the characters around the place.
-/

namespace DeployPlan.Pattern

/-- The characters before and behind a place. -/
structure Around where
  before : Option Char
  behind : Option Char

namespace Around

def beforeIs (a : Around) (set : CharSet) : Bool := a.before.any fun c => set.has c.toNat

def behindIs (a : Around) (set : CharSet) : Bool := a.behind.any fun c => set.has c.toNat

end Around

def Edge.holds (a : Around) : Edge → Bool
  | start => a.before.isNone
  | finish => a.behind.isNone
  | lineStart => a.before.isNone || a.before == some '\n'
  | lineFinish => a.behind.isNone || a.behind == some '\n'
  | wideLineStart =>
    a.before.isNone || a.before == some '\n' || (a.before == some '\r' && a.behind != some '\n')
  | wideLineFinish =>
    a.behind.isNone || a.behind == some '\r' || (a.behind == some '\n' && a.before != some '\r')
  | wordEdge w => a.beforeIs w != a.behindIs w
  | noWordEdge w => a.beforeIs w == a.behindIs w
  | wordStart w => !a.beforeIs w && a.behindIs w
  | wordFinish w => a.beforeIs w && !a.behindIs w
  | wordStartHalf w => !a.beforeIs w
  | wordFinishHalf w => !a.behindIs w

def nullable (a : Around) : Pattern → Bool
  | empty => true
  | one _ => false
  | edge e => e.holds a
  | seq p q => nullable a p && nullable a q
  | alt p q => nullable a p || nullable a q
  | many p least _ => least == 0 || nullable a p

def followedBy (rest : Pattern) : Pattern → Pattern
  | empty => rest
  | p => seq p rest

/-- What may follow after the character `c`. Repetitions that take no character come first, so one
that may be empty here counts as often as wanted. -/
def after (a : Around) (c : Char) : Pattern → List Pattern
  | empty => []
  | one set => if set.has c.toNat then [empty] else []
  | edge _ => []
  | seq p q =>
    (after a c p).map (followedBy q) ++ (if nullable a p then after a c q else [])
  | alt p q => after a c p ++ after a c q
  | many p least most =>
    if most = some 0 then []
    else
      let least := if nullable a p then 0 else least - 1
      (after a c p).map (followedBy (many p least (most.map (· - 1))))

def findFrom (p : Pattern) (before : Option Char) (alive : List Pattern) : List Char → Bool
  | [] => (p :: alive).any (nullable ⟨before, none⟩)
  | c :: cs =>
    let a : Around := ⟨before, some c⟩
    (p :: alive).any (nullable a) ||
      findFrom p (some c) ((p :: alive).flatMap (after a c)).eraseDups cs

def occursIn (p : Pattern) (s : String) : Bool :=
  findFrom p none [] s.toList

end DeployPlan.Pattern
