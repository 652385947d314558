import TokenSurvey.Json.Printer
import TokenSurvey.Service.Proxy
import TokenSurvey.Service.Reply
import TokenSurvey.Settings.Basic

/-! A client of the counting service. -/
namespace TokenSurvey.Service

structure Client where
  endpoint : String
  key : String
  version : String

/-- A request as the server gets it. -/
structure Request where
  method : String
  authority : String
  target : String
  key : String
  version : String
  contentType : String
  body : String
  deriving DecidableEq

/-- Which hosts answer at which ports, by secure connections and by plain ones, and how names that
are not plain are spelled. -/
structure Network where
  answers : Bool → Host → Nat → Bool
  spell? : Host.Spelling := fun _ => none

/-- One server, at all addresses of a network that answer; it replies to requests in turn. -/
structure Site where
  network : Network
  proxies : Proxies := {}
  replies : List Reply := []
  received : List Request := []

namespace Site

/-- Nobody answers. -/
def dark : Site := { network := { answers := fun _ _ _ => false } }

def answersAt (s : Site) (a : Address) : Bool :=
  s.network.answers a.secure a.host a.portNumber

/-- The target that a request names, if it gets to the server. A proxy gets the whole address, but
for a secure connection, which it only passes on. -/
def targetOf? (s : Site) (a : Address) : Option String :=
  match s.proxies.proxyFor a with
  | none => if s.answersAt a then some a.target else none
  | some proxy =>
    if !s.network.answers proxy.secure proxy.host proxy.port then none
    else if !a.secure then some a.whole
    else if s.answersAt a then some a.target
    else none

end Site

namespace Client

/-- Slashes at the end of the base address do not count. -/
def endpointOf (baseUrl : String) : String :=
  String.ofList (baseUrl.toList.reverse.dropWhile (· = '/')).reverse ++ "/v1/messages/count_tokens"

def ofAccess (a : Settings.Access) (key : String) : Client :=
  { endpoint := endpointOf a.baseUrl, key, version := a.apiVersion }

/-- The key is held back. -/
def describe (c : Client) : String :=
  Text.Description.partialRecord "AnthropicClient"
    [("endpoint", Text.quoted c.endpoint), ("api_version", Text.quoted c.version)]

/-- A header holds no control but the tab. -/
def fitsHeader (value : String) : Bool :=
  value.toList.all fun c => c = '\t' || (0x20 ≤ c.toNat && c.toNat ≠ 0x7F)

def canSend (c : Client) : Bool := fitsHeader c.key && fitsHeader c.version

/-- A server drops blanks and tabs around a header's value. -/
def headerValue (value : String) : String :=
  let isPad (ch : Char) : Bool := ch = ' ' || ch = '\t'
  String.ofList ((value.toList.dropWhile isPad).reverse.dropWhile isPad).reverse

/-- The text is sent as the one message of a user. -/
def document (model text : String) : Json :=
  .record [("model", .text model),
    ("messages", .array [.record [("role", .text "user"), ("content", .text text)]])]

def request (c : Client) (a : Address) (target model text : String) : Request :=
  { method := "POST", authority := a.authority, target
    key := headerValue c.key, version := headerValue c.version, contentType := "application/json"
    body := String.ofList (document model text).compact }

/-- The request that gets to the server, if one does. -/
def request? (c : Client) (site : Site) (model text : String) : Option Request := do
  let a ← Address.ofText? site.network.spell? c.endpoint
  let target ← site.targetOf? a
  some (c.request a target model text)

/-- One call makes one request at most, and no reply leads to another place; a server out of replies
closes the connection. -/
def ask (c : Client) (site : Site) (model text : String) : Outcome × Site :=
  if !c.canSend then (.error (.network "a header cannot be sent"), site)
  else match c.request? site model text with
    | none => (.error (.network "connection refused"), site)
    | some request =>
      let site := { site with received := site.received ++ [request] }
      match site.replies with
      | [] => ((Reply.bytes []).outcome, site)
      | reply :: replies => (reply.outcome, { site with replies })

end Client
end TokenSurvey.Service
