import DeployPlan.Url.Host

/-!
Addresses. An address has a scheme, perhaps an authority (user, host and port), a path, and perhaps a
query and a fragment. `Url.text` writes it.
-/

namespace DeployPlan

namespace Url

/-- The path of an address with an authority, or one that begins with a slash, is a list of segments;
any other is one text. -/
inductive Path where
  | segments (names : List String)
  | whole (text : String)
deriving DecidableEq, Repr, Inhabited

structure Authority where
  username : String := ""
  password : Option String := none
  host : Host
  port : Option Nat := none
deriving DecidableEq, Repr, Inhabited

inductive SchemeKind where
  | file
  | web
  | other
deriving DecidableEq, Repr

def schemeKind (scheme : String) : SchemeKind :=
  if scheme = "file" then .file
  else if ["http", "https", "ws", "wss", "ftp"].contains scheme then .web
  else .other

def defaultPort? (scheme : String) : Option Nat :=
  if scheme = "http" ∨ scheme = "ws" then some 80
  else if scheme = "https" ∨ scheme = "wss" then some 443
  else if scheme = "ftp" then some 21
  else none

end Url

structure Url where
  scheme : String
  authority : Option Url.Authority := none
  path : Url.Path
  query : Option String := none
  fragment : Option String := none
deriving DecidableEq, Repr, Inhabited

namespace Url

def Authority.userinfo (a : Authority) : List Char :=
  if a.username.isEmpty && a.password.isNone then []
  else a.username.toList ++ ((a.password.map (':' :: ·.toList)).getD []) ++ ['@']

def Authority.chars (a : Authority) : List Char :=
  a.userinfo ++ a.host.chars ++ ((a.port.map (':' :: Number.digits ·)).getD [])

def slashed (names : List String) : List Char :=
  names.flatMap fun n => '/' :: n.toList

/-- Without an authority a path may not begin with two slashes, so a dot is put between them. -/
def pathChars (bare : Bool) : Path → List Char
  | .whole s => s.toList
  | .segments ("" :: n :: names) =>
    (if bare then ['/', '.'] else []) ++ slashed ("" :: n :: names)
  | .segments names => slashed names

def chars (u : Url) : List Char :=
  u.scheme.toList ++ ':' ::
    (((u.authority.map fun a => '/' :: '/' :: a.chars).getD []) ++
      pathChars u.authority.isNone u.path ++
      ((u.query.map ('?' :: ·.toList)).getD []) ++
      ((u.fragment.map ('#' :: ·.toList)).getD []))

def text (u : Url) : String :=
  String.ofList u.chars

def withoutUserinfo (u : Url) : Url :=
  { u with authority := u.authority.map fun a => { a with username := "", password := none } }

def fetchable (u : Url) : Bool :=
  (u.scheme == "http" || u.scheme == "https") && u.authority.isSome

end Url

end DeployPlan
