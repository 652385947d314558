import TokenSurvey.Encoding.Models
import TokenSurvey.Service.Client

/-! Counters of tokens; none of them ever fails. -/
namespace TokenSurvey

open Service

/-- Who answers live calls: a client at a site, or outcomes set down in advance. -/
inductive Responder where
  | client (c : Client) (site : Site)
  | script (outcomes : List Outcome)

/-- A script that has run out fails every call. -/
def Responder.ask (model text : String) : Responder → Outcome × Responder
  | client c site =>
    let (outcome, site) := c.ask site model text
    (outcome, client c site)
  | script [] => (.error (.network "no outcome is left"), script [])
  | script (outcome :: outcomes) => (outcome, script outcomes)

/-- The site that a client asks, as the calls so far have left it. -/
def Responder.site? : Responder → Option Site
  | client _ site => some site
  | script _ => none

/-- A live counter keeps book of the calls that were answered and of those that fell back. -/
structure LiveCounter where
  responder : Responder
  fallback : Encoding
  answered : Nat := 0
  fallbacks : Nat := 0

namespace LiveCounter

/-- The books are kept in words of 64 bits, which start over after the greatest. -/
def tick (n : Nat) : Nat := (n + 1) % UInt64.size

/-- A call that fails is counted by the fallback, that call alone. -/
def count (l : LiveCounter) (model text : String) : Nat × LiveCounter :=
  match l.responder.ask model text with
  | (.ok n, responder) => (n, { l with responder, answered := tick l.answered })
  | (.error _, responder) =>
    (l.fallback.count text, { l with responder, fallbacks := tick l.fallbacks })

open Text.Description in
def describe (l : LiveCounter) : String :=
  partialRecord "LiveCounter" [
    ("fallback", l.fallback.title),
    ("stats", record "LiveStats"
      [("live", toString l.answered), ("fallbacks", toString l.fallbacks)])]

end LiveCounter

/-- Counts with the encoding of each model, with one encoding for all, or live. -/
inductive Counter where
  | perModel
  | fixed (encoding : Encoding)
  | live (counter : LiveCounter)

inductive Mode where
  | live
  | approximate
  | perModel
  deriving DecidableEq

def Mode.name : Mode → String
  | live => "live"
  | approximate => "approximate"
  | perModel => "local"

namespace Counter

def count (model text : String) : Counter → Nat × Counter
  | perModel => ((Encoding.resolve model).count text, perModel)
  | fixed e => (e.count text, fixed e)
  | live l =>
    let (n, l) := l.count model text
    (n, live l)

def mode : Counter → Mode
  | perModel => .perModel
  | fixed _ => .approximate
  | live _ => .live

/-- The encoding of local counts; for a live counter, of those that fall back. -/
def localEncoding (model : String) : Counter → Encoding
  | perModel => Encoding.resolve model
  | fixed e => e
  | live l => l.fallback

def live? : Counter → Option LiveCounter
  | live l => some l
  | _ => none

def describe : Counter → String
  | perModel => "Local"
  | fixed e => "Approximate(" ++ e.title ++ ")"
  | live l => "Live(" ++ l.describe ++ ")"

end Counter
end TokenSurvey
