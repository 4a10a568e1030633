/-!
Trimming a text, cutting it at a separator, and putting pieces together again. A character is blank when
it has the Unicode property `White_Space`; `trim` removes blanks from both ends and nothing else.
-/

namespace DeployPlan.Text

/-- The 25 characters with the property `White_Space`. -/
def isBlank (c : Char) : Bool :=
  let n := c.toNat
  (9 ≤ n && n ≤ 13) || n == 0x20 || n == 0x85 || n == 0xA0 || n == 0x1680 ||
    (0x2000 ≤ n && n ≤ 0x200A) || n == 0x2028 || n == 0x2029 || n == 0x202F || n == 0x205F ||
    n == 0x3000

def dropEndWhile (p : Char → Bool) (cs : List Char) : List Char :=
  (cs.reverse.dropWhile p).reverse

def trimStartChars (cs : List Char) : List Char :=
  cs.dropWhile isBlank

def trimChars (cs : List Char) : List Char :=
  dropEndWhile isBlank (trimStartChars cs)

def trim (s : String) : String :=
  String.ofList (trimChars s.toList)

def blank (s : String) : Bool :=
  s.toList.all isBlank

/-- The pieces between the separators; `n` separators give `n + 1` pieces. -/
def piecesBy (isSep : Char → Bool) : List Char → List (List Char)
  | [] => [[]]
  | c :: cs =>
    if isSep c then [] :: piecesBy isSep cs
    else
      match piecesBy isSep cs with
      | [] => [[c]]
      | p :: ps => (c :: p) :: ps

def cutAt? (sep : Char) : List Char → Option (List Char × List Char)
  | [] => none
  | c :: cs =>
    if c = sep then some ([], cs)
    else (cutAt? sep cs).map fun (before, after) => (c :: before, after)

def joinChars (sep : List Char) : List (List Char) → List Char
  | [] => []
  | [p] => p
  | p :: ps => p ++ sep ++ joinChars sep ps

def pieces (sep : Char) (s : String) : List String :=
  (piecesBy (· == sep) s.toList).map String.ofList

def join (sep : String) (parts : List String) : String :=
  String.ofList (joinChars sep.toList (parts.map String.toList))

def replaceChar (old new : Char) (s : String) : String :=
  String.ofList (s.toList.map fun c => if c = old then new else c)

theorem piecesBy_ne_nil (isSep : Char → Bool) (cs : List Char) : piecesBy isSep cs ≠ [] := by
  cases cs with
  | nil => simp [piecesBy]
  | cons c cs =>
    simp only [piecesBy]
    split
    · simp
    · split <;> simp

end DeployPlan.Text
