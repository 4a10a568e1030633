import DeployPlan.Url.Segments

/-!
Reading addresses the way browsers do: leniently about blanks around them, tabs and line ends inside
them, slashes, dots in paths, and capitals. Only absolute addresses can be read.
-/

namespace DeployPlan.Url

/-- Without control characters and blanks at the ends, and without tabs and line ends anywhere. -/
def cleaned (s : String) : List Char :=
  let junk (c : Char) : Bool := c.toNat ≤ 32
  let kept := ((s.toList.dropWhile junk).reverse.dropWhile junk).reverse
  withoutLineEnds kept

def isSchemeChar (c : Char) : Bool :=
  Text.isAsciiLetter c || Text.isAsciiDigit c || c = '+' || c = '-' || c = '.'

def readScheme? (cs : List Char) : Option (String × List Char) :=
  let name := cs.takeWhile isSchemeChar
  match cs.head?, cs.drop name.length with
  | some c, ':' :: rest =>
    if Text.isAsciiLetter c then some (String.ofList (name.map Text.lowerAscii), rest) else none
  | _, _ => none

def isSlash (kind : SchemeKind) (c : Char) : Bool :=
  c = '/' || (kind ≠ .other && c = '\\')

def endsPath (c : Char) : Bool :=
  c = '?' || c = '#'

/-! Paths -/

def addPieces (kind : SchemeKind) (path : List String) : List (List Char) → List String
  | [] => path
  | [p] => addPiece .inPath kind true path p
  | p :: ps => addPieces kind (addPiece .inPath kind false path p) ps

def withoutEmptyFront : List String → List String
  | "" :: s :: rest => withoutEmptyFront (s :: rest)
  | path => path

def readSegments (kind : SchemeKind) (cs : List Char) : List String :=
  let path := addPieces kind [] (Text.piecesBy (isSlash kind) cs)
  if kind = .file then withoutEmptyFront path else path

/-! Query and fragment -/

def withTail (u : Url) (cs : List Char) : Url :=
  let set := if schemeKind u.scheme = .other then EncodeSet.inQuery else EncodeSet.inWebQuery
  let encoded (set : EncodeSet) (cs : List Char) := String.ofList (percentEncode set cs)
  let fragment (cs : List Char) : Option String :=
    match cs with
    | '#' :: cs => some (encoded .inFragment cs)
    | _ => none
  match cs with
  | '?' :: cs =>
    { u with
      query := some (encoded set (cs.takeWhile (· ≠ '#')))
      fragment := fragment (cs.dropWhile (· ≠ '#')) }
  | cs => { u with fragment := fragment cs }

/-! Authorities -/

/-- What stands before and behind the last at sign. -/
def cutAtLastSign? (cs : List Char) : Option (List Char × List Char) :=
  (Text.cutAt? '@' cs.reverse).map fun (behind, before) => (before.reverse, behind.reverse)

def readUserinfo (cs : List Char) : String × Option String :=
  let encoded (cs : List Char) := String.ofList (percentEncode .inUserinfo cs)
  match Text.cutAt? ':' cs with
  | none => (encoded cs, none)
  | some (user, []) => (encoded user, none)
  | some (user, word) => (encoded user, some (encoded word))

def cutHost (inside : Bool) : List Char → List Char × List Char
  | [] => ([], [])
  | c :: cs =>
    if c = ':' ∧ !inside then ([], c :: cs)
    else
      let (host, rest) := cutHost (c = '[' || (inside && c ≠ ']')) cs
      (c :: host, rest)

/-- The port behind a colon. -/
def readPort (cs : List Char) : Except ParseError (Option Nat × List Char) :=
  let ds := cs.takeWhile Text.isAsciiDigit
  let rest := cs.drop ds.length
  if Number.ofDigits ds > 65535 then .error .badPort
  else
    match rest with
    | c :: _ =>
      if ['/', '\\', '?', '#'].contains c then
        .ok (if ds.isEmpty then none else some (Number.ofDigits ds), rest)
      else .error .badPort
    | [] => .ok (if ds.isEmpty then none else some (Number.ofDigits ds), rest)

def readAuthority (scheme : String) (cs : List Char) : Except ParseError (Authority × List Char) := do
  let kind := schemeKind scheme
  let ends (c : Char) : Bool := isSlash kind c || endsPath c
  let front := cs.takeWhile (!ends ·)
  let rest := cs.drop front.length
  let (userinfo, hostAndPort) := (cutAtLastSign? front).getD ([], front)
  if userinfo.isEmpty && front.head? = some '@' && hostAndPort.isEmpty && !rest.isEmpty then
    throw .emptyHost
  let (username, password) := readUserinfo userinfo
  let (hostChars, portPart) := cutHost false hostAndPort
  if hostChars.isEmpty && kind = .web then throw .emptyHost
  let host ← if kind = .web then Host.ofWeb hostChars else Host.ofOther hostChars
  if hostChars.isEmpty && !portPart.isEmpty then throw .emptyHost
  let (port, rest) ←
    match portPart with
    | ':' :: ds => readPort (ds ++ rest)
    | _ => pure (none, rest)
  if hostChars.isEmpty && !(username.isEmpty && password.isNone) then throw .emptyHost
  let port := if port = defaultPort? scheme then none else port
  return ({ username, password, host, port }, rest)

def readHierarchical (scheme : String) (cs : List Char) : Except ParseError Url := do
  let (authority, rest) ← readAuthority scheme cs
  let kind := schemeKind scheme
  let path := rest.takeWhile (!endsPath ·)
  let tail := rest.drop path.length
  let segments :=
    match path with
    | [] => if kind = .web then [""] else []
    | c :: cs => if isSlash kind c then readSegments kind cs else readSegments kind (c :: cs)
  return withTail { scheme, authority := some authority, path := .segments segments } tail

/-- The address of a file: with a host behind two slashes, where a drive is no host. -/
def readFile (cs : List Char) : Except ParseError Url := do
  let path := cs.takeWhile (!endsPath ·)
  let tail := cs.drop path.length
  let slash (c : Char) : Bool := isSlash .file c
  let make (host : Host) (segments : List String) : Url :=
    withTail { scheme := "file", authority := some { host }, path := .segments segments } tail
  match path with
  | a :: b :: rest =>
    if slash a && slash b then
      let hostChars := rest.takeWhile (!slash ·)
      if isDriveLetter hostChars then return make (.name "") (readSegments .file rest)
      else
        let host ← if hostChars.isEmpty then pure (.name "") else Host.ofWeb hostChars
        let host := if host = .name "localhost" then .name "" else host
        let segments := readSegments .file (rest.drop (hostChars.length + 1))
        return make (if segments.head?.any isDrive then .name "" else host) segments
    else return make (.name "") (readSegments .file (if slash a then b :: rest else path))
  | [a] => return make (.name "") (readSegments .file (if slash a then [] else path))
  | [] => return make (.name "") [""]

def parse (s : String) : Except ParseError Url :=
  match readScheme? (cleaned s) with
  | none => .error .relative
  | some (scheme, rest) =>
    match schemeKind scheme with
    | .file => readFile rest
    | .web => readHierarchical scheme (rest.dropWhile (isSlash .web))
    | .other =>
      match rest with
      | '/' :: '/' :: rest => readHierarchical scheme rest
      | '/' :: rest =>
        let path := rest.takeWhile (!endsPath ·)
        .ok (withTail { scheme, path := .segments (readSegments .other path) }
          (rest.drop path.length))
      | rest =>
        let path := rest.takeWhile (!endsPath ·)
        .ok (withTail { scheme, path := .whole (String.ofList (percentEncode .controls path)) }
          (rest.drop path.length))

end DeployPlan.Url
