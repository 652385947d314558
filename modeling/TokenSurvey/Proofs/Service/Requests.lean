import TokenSurvey.Proofs.Counter.Separation
import TokenSurvey.Proofs.Json.RoundTrip
import TokenSurvey.Proofs.Text.Utf8

/-! What a client sends: each call makes one request, whatever the reply, and the body of the
request reads back as the question. -/
namespace TokenSurvey.Service

open Dialogue
open Tokens (encodeText)

namespace Client

variable {c : Client} {site : Site} {a : Address} {target : String}

/-- A client with legal headers and an endpoint that is an address, from where a site is reached. -/
structure Reaches (c : Client) (site : Site) (a : Address) (target : String) : Prop where
  key : fitsHeader c.key
  version : fitsHeader c.version
  endpoint : Address.ofText? site.network.spell? c.endpoint = some a
  target : site.targetOf? a = some target

/-- The site after a question, whatever the reply. -/
def asked (c : Client) (a : Address) (target : String) (site : Site) (qs : List Query) : Site :=
  { site with
    replies := site.replies.drop qs.length
    received := site.received ++ qs.map fun q => c.request a target q.model q.text }

theorem Reaches.canSend (h : c.Reaches site a target) : c.canSend = true := by
  rw [Client.canSend, h.key, h.version, Bool.and_true]

theorem Reaches.request? (h : c.Reaches site a target) (model text : String) :
    c.request? site model text = some (c.request a target model text) := by
  simp only [Client.request?, h.endpoint, Option.bind_eq_bind, Option.bind_some, h.target]

/-- Without a proxy in between, a client reaches a site at every address that answers. -/
theorem reaches_of_answersAt (key : fitsHeader c.key) (version : fitsHeader c.version)
    (endpoint : Address.ofText? site.network.spell? c.endpoint = some a)
    (direct : site.proxies.proxyFor a = none) (answered : site.answersAt a = true) :
    c.Reaches site a a.target := by
  refine ⟨key, version, endpoint, ?_⟩
  simp only [Site.targetOf?, direct, answered, if_true]

theorem Reaches.ask (h : c.Reaches site a target) (q : Query) :
    (c.ask site q.model q.text).2 = c.asked a target site [q] := by
  rw [Client.ask, h.canSend, h.request?]
  cases hr : site.replies <;> simp [asked, hr]

/-- Requests do not move the server. -/
theorem Reaches.asked (h : c.Reaches site a target) (qs : List Query) :
    c.Reaches (c.asked a target site qs) a target := ⟨h.key, h.version, h.endpoint, h.target⟩

end Client
end TokenSurvey.Service
