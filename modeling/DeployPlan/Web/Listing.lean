import DeployPlan.Act
import DeployPlan.Json.Decoding
import DeployPlan.Settings
import DeployPlan.Text.Pieces
import DeployPlan.Url.Segments
import DeployPlan.Web.Exchange

/-!
Lists that a server gives out page by page. A response that is not the last one carries a token, which
the request for the next page sends back. A server that repeats the token it was just sent ends the
listing; nothing else bounds the number of pages.
-/

namespace DeployPlan.Web

open Json (Decoder)

structure Client (σ : Type) where
  settings : BuildSystemSettings
  exchange : Exchange σ

def tokenHeader : String := "x-ms-continuationtoken"

/-- The token of the next page: trimmed, and none if it is blank. -/
def Response.nextToken? (r : Response) : Option String :=
  ((((r.header? tokenHeader).filter readableHeaderValue).map Text.trim).filter (!·.isEmpty))

def pageUrl (url : Url) : Option String → Url
  | none => url
  | some token => url.withPair "continuationToken" token

def pageDecoder {α : Type} (item : Decoder α) : Decoder (List α) :=
  Json.record "ListResponse" (.cons "value" (Json.list item) (some []) .nil) fun (items, ()) => items

namespace Client

variable {σ α : Type}

def request (c : Client σ) (url : Url) : Request where
  url := url
  userAgent := c.settings.userAgent
  authorization := c.settings.token.map basicAuthorization

def send (c : Client σ) (url : Url) : Act σ Response :=
  if !url.fetchable then Act.fail (.transport (.unbuildable (some url.withoutUserinfo.text)))
  else fun s =>
    match c.exchange (c.request url) s with
    | (some r, s) => ⟨.ok r, s, []⟩
    | (none, s) => ⟨.error (.transport (.unanswered url.withoutUserinfo.text)), s, []⟩

def page (c : Client σ) (item : Decoder α) (url : Url) (token : Option String) :
    Act σ (List α × Option String) := do
  let place := pageUrl url token
  Act.report (.querying place.text)
  let response ← c.send place
  if !response.isSuccess then
    Act.fail (.buildSystem (.status place.text (statusText response.status)))
  else
    match Json.decodeText (pageDecoder item) response.body with
    | .error _ => Act.fail (.transport .undecodable)
    | .ok items => return (items, response.nextToken?)

/-- The items from the page with this token on, after those of the pages before it. There is no answer
when more than the given number of pages would have to be asked for. -/
def listFrom (c : Client σ) (item : Decoder α) (url : Url) :
    Nat → Option String → List α → Act σ (Option (List α))
  | 0, _, _ => return none
  | pages + 1, token, items => do
    let (more, next) ← c.page item url token
    match next with
    | none => return some (items ++ more)
    | some t =>
      if token = some t then Act.fail (.buildSystem (.repeatedToken url.text t))
      else c.listFrom item url pages (some t) (items ++ more)

def list (c : Client σ) (item : Decoder α) (pages : Nat) (url : Url) : Act σ (Option (List α)) :=
  c.listFrom item url pages none []

end Client

end DeployPlan.Web
