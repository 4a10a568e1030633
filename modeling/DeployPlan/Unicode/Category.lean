import DeployPlan.Unicode.Extras

/-!
General categories and the classes made of them.
-/

namespace DeployPlan.Unicode

inductive Category where
  | upperLetter | lowerLetter | titleLetter | modifierLetter | otherLetter
  | nonspacingMark | spacingMark | enclosingMark
  | decimalDigit | letterNumber | otherNumber
  | connectorPunctuation | dashPunctuation | openPunctuation | closePunctuation
  | initialPunctuation | finalPunctuation | otherPunctuation
  | mathSymbol | currencySymbol | modifierSymbol | otherSymbol
  | spaceSeparator | lineSeparator | paragraphSeparator
  | control | format | surrogate | privateUse | unassigned
deriving DecidableEq, Repr

namespace Category

def assigned : List Category :=
  [upperLetter, lowerLetter, titleLetter, modifierLetter, otherLetter,
    nonspacingMark, spacingMark, enclosingMark,
    decimalDigit, letterNumber, otherNumber,
    connectorPunctuation, dashPunctuation, openPunctuation, closePunctuation,
    initialPunctuation, finalPunctuation, otherPunctuation,
    mathSymbol, currencySymbol, modifierSymbol, otherSymbol,
    spaceSeparator, lineSeparator, paragraphSeparator,
    control, format, surrogate, privateUse]

def runs : Category → List Run
  | upperLetter => Unicode.upperLetter
  | lowerLetter => Unicode.lowerLetter
  | titleLetter => Unicode.titleLetter
  | modifierLetter => Unicode.modifierLetter
  | otherLetter => Unicode.otherLetter
  | nonspacingMark => Unicode.nonspacingMark
  | spacingMark => Unicode.spacingMark
  | enclosingMark => Unicode.enclosingMark
  | decimalDigit => Unicode.decimalDigit
  | letterNumber => Unicode.letterNumber
  | otherNumber => Unicode.otherNumber
  | connectorPunctuation => Unicode.connectorPunctuation
  | dashPunctuation => Unicode.dashPunctuation
  | openPunctuation => Unicode.openPunctuation
  | closePunctuation => Unicode.closePunctuation
  | initialPunctuation => Unicode.initialPunctuation
  | finalPunctuation => Unicode.finalPunctuation
  | otherPunctuation => Unicode.otherPunctuation
  | mathSymbol => Unicode.mathSymbol
  | currencySymbol => Unicode.currencySymbol
  | modifierSymbol => Unicode.modifierSymbol
  | otherSymbol => Unicode.otherSymbol
  | spaceSeparator => Unicode.spaceSeparator
  | lineSeparator => Unicode.lineSeparator
  | paragraphSeparator => Unicode.paragraphSeparator
  | control => Unicode.control
  | format => Unicode.format
  | surrogate => Unicode.surrogate
  | privateUse => Unicode.privateUse
  | unassigned => []

def ofCode (n : Nat) : Category :=
  (assigned.find? fun c => inRuns c.runs n).getD unassigned

end Category

def isMark (n : Nat) : Bool :=
  inRuns nonspacingMark n || inRuns spacingMark n || inRuns enclosingMark n

def isLetter (n : Nat) : Bool :=
  inRuns upperLetter n || inRuns lowerLetter n || inRuns titleLetter n ||
    inRuns modifierLetter n || inRuns otherLetter n

def isAlphabetic (n : Nat) : Bool :=
  isLetter n || inRuns letterNumber n || inRuns otherAlphabetic n

def isUppercase (n : Nat) : Bool :=
  inRuns upperLetter n || inRuns otherUppercase n

def isLowercase (n : Nat) : Bool :=
  inRuns lowerLetter n || inRuns otherLowercase n

/-- Alphabetic characters, marks, decimal digits, connectors and joiners. -/
def isWord (n : Nat) : Bool :=
  if n < 128 then
    (48 ≤ n && n ≤ 57) || (65 ≤ n && n ≤ 90) || n == 95 || (97 ≤ n && n ≤ 122)
  else
    isAlphabetic n || isMark n || inRuns decimalDigit n || inRuns connectorPunctuation n ||
      n == 0x200C || n == 0x200D

def extendsGrapheme (n : Nat) : Bool :=
  n ≥ 128 && (inRuns nonspacingMark n || inRuns enclosingMark n || inRuns otherGraphemeExtend n)

def isPrintable (n : Nat) : Bool :=
  if n < 127 then n ≥ 32
  else
    match Category.ofCode n with
    | .control | .format | .surrogate | .privateUse | .unassigned
    | .spaceSeparator | .lineSeparator | .paragraphSeparator => false
    | _ => true

end DeployPlan.Unicode
