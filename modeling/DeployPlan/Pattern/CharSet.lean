import DeployPlan.Text.Ascii
import DeployPlan.Text.Pieces
import DeployPlan.Unicode.CaseFolding
import DeployPlan.Unicode.Category
import DeployPlan.Unicode.Script

/-!
Sets of characters as they are written in patterns, and the sets that have a name.
-/

namespace DeployPlan.Pattern

open Unicode (Category)

inductive CharSet where
  | span (first last : Nat)
  | ofCategories (cs : List Category)
  | ofScript (name : String)
  | alphabetic
  | uppercase
  | lowercase
  | blank
  | word
  | none
  | either (a b : CharSet)
  | both (a b : CharSet)
  | complement (a : CharSet)
  | folded (a : CharSet)
deriving DecidableEq, Repr, Inhabited

namespace CharSet

def any : CharSet := span 0 0x10FFFF

def single (c : Char) : CharSet := span c.toNat c.toNat

def without (a b : CharSet) : CharSet := both a (complement b)

def apart (a b : CharSet) : CharSet := either (without a b) (without b a)

def ofList : List CharSet → CharSet
  | [] => none
  | [s] => s
  | s :: rest => either s (ofList rest)

def has : CharSet → Nat → Bool
  | span first last, n => first ≤ n && n ≤ last
  | ofCategories cs, n => cs.contains (Category.ofCode n)
  | ofScript name, n => ((Unicode.scriptRuns? name).map fun rs => Unicode.inRuns rs n).getD false
  | alphabetic, n => Unicode.isAlphabetic n
  | uppercase, n => Unicode.isUppercase n
  | lowercase, n => Unicode.isLowercase n
  | blank, n => Text.isBlank (Char.ofNat n)
  | word, n => Unicode.isWord n
  | none, _ => false
  | either a b, n => a.has n || b.has n
  | both a b, n => a.has n && b.has n
  | complement a, n => !a.has n
  | folded a, n => (Unicode.caseVariants n).any a.has

def digit : CharSet := ofCategories [.decimalDigit]

def asciiDigit : CharSet := span 48 57

def asciiWord : CharSet := ofList [asciiDigit, span 65 90, span 97 122, span 95 95]

def asciiBlank : CharSet := ofList [span 9 13, span 32 32]

def ofBracketName? (name : String) : Option CharSet :=
  match name with
  | "alnum" => some (ofList [asciiDigit, span 65 90, span 97 122])
  | "alpha" => some (ofList [span 65 90, span 97 122])
  | "ascii" => some (span 0 127)
  | "blank" => some (ofList [span 9 9, span 32 32])
  | "cntrl" => some (ofList [span 0 31, span 127 127])
  | "digit" => some asciiDigit
  | "graph" => some (span 33 126)
  | "lower" => some (span 97 122)
  | "print" => some (span 32 126)
  | "punct" => some (ofList [span 33 47, span 58 64, span 91 96, span 123 126])
  | "space" => some asciiBlank
  | "upper" => some (span 65 90)
  | "word" => some asciiWord
  | "xdigit" => some (ofList [asciiDigit, span 65 70, span 97 102])
  | _ => Option.none

def letters : List Category :=
  [.upperLetter, .lowerLetter, .titleLetter, .modifierLetter, .otherLetter]

def marks : List Category := [.nonspacingMark, .spacingMark, .enclosingMark]

def numbers : List Category := [.decimalDigit, .letterNumber, .otherNumber]

def punctuation : List Category :=
  [.connectorPunctuation, .dashPunctuation, .openPunctuation, .closePunctuation,
    .initialPunctuation, .finalPunctuation, .otherPunctuation]

def symbols : List Category := [.mathSymbol, .currencySymbol, .modifierSymbol, .otherSymbol]

def separators : List Category := [.spaceSeparator, .lineSeparator, .paragraphSeparator]

def categoryNames : List (List String × List Category) := [
  (["c", "other"], [.control, .format, .privateUse, .unassigned]),
  (["cc", "control", "cntrl"], [.control]), (["cf", "format"], [.format]),
  (["cn", "unassigned"], [.unassigned]), (["co", "privateuse"], [.privateUse]),
  (["l", "letter"], letters),
  (["lc", "casedletter"], [.upperLetter, .lowerLetter, .titleLetter]),
  (["ll", "lowercaseletter"], [.lowerLetter]), (["lm", "modifierletter"], [.modifierLetter]),
  (["lo", "otherletter"], [.otherLetter]), (["lt", "titlecaseletter"], [.titleLetter]),
  (["lu", "uppercaseletter"], [.upperLetter]),
  (["m", "mark", "combiningmark"], marks), (["mc", "spacingmark"], [.spacingMark]),
  (["me", "enclosingmark"], [.enclosingMark]), (["mn", "nonspacingmark"], [.nonspacingMark]),
  (["n", "number"], numbers), (["nd", "decimalnumber", "digit"], [.decimalDigit]),
  (["nl", "letternumber"], [.letterNumber]), (["no", "othernumber"], [.otherNumber]),
  (["p", "punctuation", "punct"], punctuation),
  (["pc", "connectorpunctuation"], [.connectorPunctuation]),
  (["pd", "dashpunctuation"], [.dashPunctuation]),
  (["pe", "closepunctuation"], [.closePunctuation]),
  (["pf", "finalpunctuation"], [.finalPunctuation]),
  (["pi", "initialpunctuation"], [.initialPunctuation]),
  (["po", "otherpunctuation"], [.otherPunctuation]),
  (["ps", "openpunctuation"], [.openPunctuation]),
  (["s", "symbol"], symbols), (["sc", "currencysymbol"], [.currencySymbol]),
  (["sk", "modifiersymbol"], [.modifierSymbol]), (["sm", "mathsymbol"], [.mathSymbol]),
  (["so", "othersymbol"], [.otherSymbol]),
  (["z", "separator"], separators), (["zl", "lineseparator"], [.lineSeparator]),
  (["zp", "paragraphseparator"], [.paragraphSeparator]),
  (["zs", "spaceseparator"], [.spaceSeparator])]

def ofCategoryName? (name : String) : Option CharSet :=
  match name with
  | "any" => some any
  | "assigned" => some (complement (ofCategories [.unassigned]))
  | "ascii" => some (span 0 127)
  | name => (categoryNames.find? (·.1.contains name)).map fun entry => ofCategories entry.2

def ofScriptName? (name : String) : Option CharSet :=
  (Unicode.scriptRuns? name).map fun _ => ofScript name

def ofPropertyName? (name : String) : Option CharSet :=
  match name with
  | "alphabetic" | "alpha" => some alphabetic
  | "uppercase" | "upper" => some uppercase
  | "lowercase" | "lower" => some lowercase
  | "whitespace" | "wspace" | "space" => some blank
  | "asciihexdigit" | "ahex" => ofBracketName? "xdigit"
  | _ => Option.none

/-- Case, blanks, hyphens, underscores and a leading `is` do not count in names. -/
def plainName (name : List Char) : String :=
  let kept := (name.map Text.lowerAscii).filter fun c => c ≠ ' ' ∧ c ≠ '-' ∧ c ≠ '_'
  match kept with
  | 'i' :: 's' :: 'c' :: [] => "isc"
  | 'i' :: 's' :: rest => String.ofList rest
  | kept => String.ofList kept

def ofName? (name : List Char) : Option CharSet :=
  let name := plainName name
  ((ofPropertyName? name).or (ofCategoryName? name)).or (ofScriptName? name)

def ofNameAndValue? (name value : List Char) : Option CharSet :=
  let value := plainName value
  match plainName name with
  | "gc" | "generalcategory" => ofCategoryName? value
  | "sc" | "script" | "scx" | "scriptextensions" => ofScriptName? value
  | _ => Option.none

def weight : CharSet → Nat
  | span _ last => if last < 128 then 32 else 120
  | ofCategories _ => 25000
  | ofScript _ => 3000
  | alphabetic | word => 50000
  | uppercase | lowercase => 25000
  | blank => 400
  | none => 0
  | either a b | both a b => a.weight + b.weight
  | complement a => a.weight + 300
  | folded a => 2 * a.weight

end CharSet

end DeployPlan.Pattern
