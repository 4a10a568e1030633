import DeployPlan.Url.Basic

/-!
The segments of a path. Dots stand for the place itself and for the one above it, and the path of a file
may begin with a drive. An address is extended by segments and by pairs of the query; separators inside
a segment or a pair are encoded, so they stay inside.
-/

namespace DeployPlan.Url

def withoutLineEnds (cs : List Char) : List Char :=
  cs.filter fun c => c ≠ '\t' ∧ c ≠ '\n' ∧ c ≠ '\r'

def isSingleDot (s : String) : Bool :=
  s == "." || Text.lowerCase s == "%2e"

def isDoubleDot (s : String) : Bool :=
  ["..", "%2e.", ".%2e", "%2e%2e"].contains (Text.lowerCase s)

def isDriveLetter : List Char → Bool
  | [c, d] => Text.isAsciiLetter c && (d = ':' || d = '|')
  | _ => false

def isDrive (s : String) : Bool :=
  match s.toList with
  | [c, ':'] => Text.isAsciiLetter c
  | _ => false

/-- Drops the last segment, but never a drive at the beginning. -/
def shorten (kind : SchemeKind) (path : List String) : List String :=
  match path with
  | [s] => if kind = .file && isDrive s then [s] else []
  | path => path.dropLast

/-- Adds a piece of a path; `last` when no slash follows it. -/
def addPiece (set : EncodeSet) (kind : SchemeKind) (last : Bool) (path : List String)
    (piece : List Char) : List String :=
  let segment := String.ofList (percentEncode set piece)
  if isDoubleDot segment then shorten kind path ++ (if last then [""] else [])
  else if isSingleDot segment then path ++ (if last then [""] else [])
  else if kind = .file && path.isEmpty && isDriveLetter piece then
    [String.ofList (piece.take 1 ++ [':'])]
  else if kind = .file && path.isEmpty && isDrive (String.ofList (piece.take 2)) then
    [String.ofList (piece.take 2), String.ofList (percentEncode set (piece.drop 2))]
  else path ++ [segment]

/-! Extended addresses -/

def segmentSet (kind : SchemeKind) : EncodeSet :=
  if kind = .other then .inSegment else .inWebSegment

def dropEmptyEnd (path : List String) : List String :=
  if path.length > 1 && path.getLast? == some "" then path.dropLast else path

/-- Adds a segment. Dots are no segments: they are passed over, unless blanks that are dropped hid
them, in which case they act as they do in a path. -/
def pushSegment (kind : SchemeKind) (path : List String) (s : String) : List String :=
  if s == "." || s == ".." then path
  else
    addPiece (segmentSet kind) kind true (if path = [""] then [] else path)
      (withoutLineEnds s.toList)

/-- The address with further segments; none when its path is one text. -/
def withSegments? (u : Url) (segments : List String) : Option Url :=
  match u.path with
  | .segments names =>
    some { u with path := .segments (segments.foldl (pushSegment (schemeKind u.scheme)) (dropEmptyEnd names)) }
  | .whole _ => none

def withPair (u : Url) (name value : String) : Url :=
  let pair := String.ofList (formEncode name.toList ++ '=' :: formEncode value.toList)
  let query :=
    match u.query with
    | none => pair
    | some q => if q.isEmpty then pair else q ++ "&" ++ pair
  { u with query := some query }

end DeployPlan.Url
