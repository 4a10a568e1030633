import DeployPlan.Number.Decimal
import DeployPlan.Text.Ascii
import DeployPlan.Text.Utf8
import DeployPlan.Url.Basic

/-!
Requests to servers and what comes back. A token is sent in base 64: three bytes as four characters for
six bits each, and what is missing at the end is filled up with equals signs.
-/

namespace DeployPlan.Web

structure Request where
  url : Url
  userAgent : String
  authorization : Option String := none
deriving DecidableEq, Repr, Inhabited

structure Response where
  status : Nat := 200
  headers : List (String × String) := []
  body : String := ""
deriving DecidableEq, Repr, Inhabited

/-- Sends a request to servers in the state `σ`. No response comes when the connection is closed. -/
abbrev Exchange (σ : Type) : Type := Request → σ → Option Response × σ

/-- A network on which nobody answers. -/
def unreachable {σ : Type} : Exchange σ := fun _ s => (none, s)

def Response.isSuccess (r : Response) : Bool :=
  200 ≤ r.status && r.status < 300

def legalHeaderValue (s : String) : Bool :=
  s.toList.all fun c => c = '\t' || (c.toNat ≥ 32 && c.toNat ≠ 127)

def readableHeaderValue (s : String) : Bool :=
  s.toList.all fun c => c = '\t' || (32 ≤ c.toNat && c.toNat < 127)

def Response.header? (r : Response) (name : String) : Option String :=
  (r.headers.find? fun h => Text.sameIgnoringCase h.1 name).map (·.2)

namespace Base64

def digit (n : Nat) : Char :=
  if n < 26 then Char.ofNat (65 + n)
  else if n < 52 then Char.ofNat (71 + n)
  else if n < 62 then Char.ofNat (n - 4)
  else if n = 62 then '+'
  else '/'

def encode : List UInt8 → List Char
  | [] => []
  | [a] =>
    let n := a.toNat * 16
    [digit (n / 64), digit (n % 64), '=', '=']
  | [a, b] =>
    let n := (a.toNat * 256 + b.toNat) * 4
    [digit (n / 4096), digit (n / 64 % 64), digit (n % 64), '=']
  | a :: b :: c :: rest =>
    let n := (a.toNat * 256 + b.toNat) * 256 + c.toNat
    digit (n / 262144) :: digit (n / 4096 % 64) :: digit (n / 64 % 64) :: digit (n % 64) ::
      encode rest

end Base64

def basicAuthorization (token : String) : String :=
  "Basic " ++ String.ofList (Base64.encode (Text.Utf8.encode (':' :: token.toList)))

def statusPhrases : List (Nat × String) := [
  (100, "Continue"), (101, "Switching Protocols"), (102, "Processing"), (103, "Early Hints"),
  (200, "OK"), (201, "Created"), (202, "Accepted"), (203, "Non Authoritative Information"),
  (204, "No Content"), (205, "Reset Content"), (206, "Partial Content"), (207, "Multi-Status"),
  (208, "Already Reported"), (226, "IM Used"), (300, "Multiple Choices"),
  (301, "Moved Permanently"), (302, "Found"), (303, "See Other"), (304, "Not Modified"),
  (305, "Use Proxy"), (307, "Temporary Redirect"), (308, "Permanent Redirect"),
  (400, "Bad Request"), (401, "Unauthorized"), (402, "Payment Required"), (403, "Forbidden"),
  (404, "Not Found"), (405, "Method Not Allowed"), (406, "Not Acceptable"),
  (407, "Proxy Authentication Required"), (408, "Request Timeout"), (409, "Conflict"),
  (410, "Gone"), (411, "Length Required"), (412, "Precondition Failed"),
  (413, "Payload Too Large"), (414, "URI Too Long"), (415, "Unsupported Media Type"),
  (416, "Range Not Satisfiable"), (417, "Expectation Failed"), (418, "I'm a teapot"),
  (421, "Misdirected Request"), (422, "Unprocessable Entity"), (423, "Locked"),
  (424, "Failed Dependency"), (425, "Too Early"), (426, "Upgrade Required"),
  (428, "Precondition Required"), (429, "Too Many Requests"),
  (431, "Request Header Fields Too Large"), (451, "Unavailable For Legal Reasons"),
  (500, "Internal Server Error"), (501, "Not Implemented"), (502, "Bad Gateway"),
  (503, "Service Unavailable"), (504, "Gateway Timeout"), (505, "HTTP Version Not Supported"),
  (506, "Variant Also Negotiates"), (507, "Insufficient Storage"), (508, "Loop Detected"),
  (510, "Not Extended"), (511, "Network Authentication Required")]

def statusText (status : Nat) : String :=
  Number.text status ++ " " ++ (statusPhrases.lookup status).getD "<unknown status code>"

end DeployPlan.Web
