import TokenSurvey.Proofs.Counter.Separation

/-! Counters that differ in the key alone which they ask the service with: they answer alike, they
describe themselves alike, and their requests differ in the key alone. -/
namespace TokenSurvey

open Dialogue
open Service (Client Request Site)

/-- Access with a key. -/
def Settings.Access.keyed (a : Settings.Access) (key : String) : Settings.Access :=
  { a with apiKey := some key }

/-- The request with a key. -/
def Service.Request.signed (r : Request) (key : String) : Request :=
  { r with key := Client.headerValue key }

variable (key key' : String) (before : List Request)

/-- Sites that have got the same requests since they had got `before`, each with a key of its own. -/
structure Service.Site.Alike (s s' : Site) : Prop where
  network : s'.network = s.network
  proxies : s'.proxies = s.proxies
  replies : s'.replies = s.replies
  received : ∃ sent : List Request, s.received = before ++ sent.map (·.signed key) ∧
    s'.received = before ++ sent.map (·.signed key')

/-- One client, with a key of its own at each of two sites. -/
inductive Responder.Alike : Responder → Responder → Prop where
  | client (c : Client) {s s' : Site} (h : s.Alike key key' before s') :
      Alike (.client { c with key } s) (.client { c with key := key' } s')

structure LiveCounter.Alike (l l' : LiveCounter) : Prop where
  responder : Responder.Alike key key' before l.responder l'.responder
  fallback : l'.fallback = l.fallback
  answered : l'.answered = l.answered
  fallbacks : l'.fallbacks = l.fallbacks

inductive Counter.Alike : Counter → Counter → Prop where
  | unlinked (c : Counter) (h : c.mode ≠ .live) : Alike c c
  | live {l l' : LiveCounter} (h : l.Alike key key' before l') : Alike (.live l) (.live l')

def Registry.Alike (r r' : Registry) : Prop :=
  ∀ provider, (r.counter provider).Alike key key' before (r'.counter provider)

theorem Service.Client.request?_with_key (c : Client) (key : String) (s : Site)
    (model text : String) :
    ({ c with key } : Client).request? s model text =
      (c.request? s model text).map (·.signed key) := by
  simp only [Client.request?]
  cases Service.Address.ofText? s.network.spell? c.endpoint with
  | none => rfl
  | some a =>
    simp only [Option.bind_eq_bind, Option.bind_some]
    cases s.targetOf? a <;> rfl

variable {key key' before}

namespace Service.Site.Alike

variable {s s' : Site}

theorem refl (s : Site) : s.Alike key key' s.received s := ⟨rfl, rfl, rfl, [], by simp⟩

/-- Which requests get to a server does not depend on the key. -/
theorem request? (h : s.Alike key key' before s') (c : Client) (model text : String) :
    c.request? s' model text = c.request? s model text := by
  obtain ⟨network, proxies, _, _⟩ := s
  obtain ⟨_, _, _, _⟩ := s'
  obtain rfl := h.network
  obtain rfl := h.proxies
  rfl

/-- Either a request is made at both sites or at neither. -/
theorem ask (h : s.Alike key key' before s')
    (fits : Client.fitsHeader key = Client.fitsHeader key') (c : Client) (model text : String) :
    let here := ({ c with key } : Client).ask s model text
    let there := ({ c with key := key' } : Client).ask s' model text
    here.1 = there.1 ∧ here.2.Alike key key' before there.2 := by
  have both : ({ c with key } : Client).canSend = ({ c with key := key' } : Client).canSend := by
    simp only [Client.canSend, fits]
  simp only [Client.ask, both]
  rw [c.request?_with_key key, c.request?_with_key key', h.request?]
  -- A key that does not fit, or an address that leads nowhere, ends the call before any request.
  cases ({ c with key := key' } : Client).canSend with
  | false => exact ⟨rfl, h⟩
  | true =>
    cases c.request? s model text with
    | none => exact ⟨rfl, h⟩
    | some request =>
      obtain ⟨sent, received, received'⟩ := h.received
      have more : ∃ sent : List Request,
          s.received ++ [request.signed key] = before ++ sent.map (·.signed key) ∧
          s'.received ++ [request.signed key'] = before ++ sent.map (·.signed key') := by
        refine ⟨sent ++ [request], ?_, ?_⟩
        · rw [received, List.map_append, List.append_assoc]
          rfl
        · rw [received', List.map_append, List.append_assoc]
          rfl
      simp only [Option.map_some, h.replies]
      cases s.replies with
      | nil => exact ⟨rfl, h.network, h.proxies, rfl, more⟩
      | cons reply replies => exact ⟨rfl, h.network, h.proxies, rfl, more⟩

end Service.Site.Alike

theorem Responder.Alike.site? {r r' : Responder} (h : r.Alike key key' before r') :
    ∃ s s', r.site? = some s ∧ r'.site? = some s' ∧ s.Alike key key' before s' := by
  obtain ⟨c, h⟩ := h
  exact ⟨_, _, rfl, rfl, h⟩

section Steps

variable (fits : Client.fitsHeader key = Client.fitsHeader key') (model text : String)

include fits

theorem Responder.Alike.ask {r r' : Responder} (h : r.Alike key key' before r') :
    (r.ask model text).1 = (r'.ask model text).1 ∧
      (r.ask model text).2.Alike key key' before (r'.ask model text).2 := by
  obtain ⟨c, h⟩ := h
  obtain ⟨same, alike⟩ := h.ask fits c model text
  exact ⟨same, .client c alike⟩

theorem LiveCounter.Alike.count {l l' : LiveCounter} (h : l.Alike key key' before l') :
    (l.count model text).1 = (l'.count model text).1 ∧
      (l.count model text).2.Alike key key' before (l'.count model text).2 := by
  obtain ⟨same, alike⟩ := h.responder.ask fits model text
  simp only [LiveCounter.count]
  generalize l.responder.ask model text = here at same alike
  generalize l'.responder.ask model text = there at same alike
  obtain ⟨outcome, responder⟩ := here
  obtain ⟨_, responder'⟩ := there
  obtain rfl := same
  cases outcome with
  | ok n => exact ⟨rfl, alike, h.fallback, by rw [h.answered], h.fallbacks⟩
  | error => exact ⟨by rw [h.fallback], alike, h.fallback, h.answered, by rw [h.fallbacks]⟩

theorem Counter.Alike.count {c c' : Counter} (h : c.Alike key key' before c') :
    (c.count model text).1 = (c'.count model text).1 ∧
      (c.count model text).2.Alike key key' before (c'.count model text).2 := by
  cases h with
  | unlinked _ unlinked =>
    refine ⟨rfl, ?_⟩
    cases c with
    | perModel | fixed => exact .unlinked _ unlinked
    | live => exact (unlinked rfl).elim
  | live h =>
    obtain ⟨same, alike⟩ := h.count fits model text
    exact ⟨same, .live alike⟩

omit model text in
theorem Registry.Alike.ask {r r' : Registry} (h : r.Alike key key' before r') (q : Query) :
    (Tally.ask Registry.count q r).1 = (Tally.ask Registry.count q r').1 ∧
      (Tally.ask Registry.count q r).2.Alike key key' before (Tally.ask Registry.count q r').2 := by
  obtain ⟨same, alike⟩ := (h q.provider).count fits q.model q.text
  refine ⟨same, fun provider => ?_⟩
  rw [Registry.counter_ask, Registry.counter_ask]
  split
  · subst provider
    exact alike
  · exact h provider

omit model text in
/-- Whatever is asked, the answers do not show the key. -/
theorem Registry.Alike.asked {r r' : Registry} (h : r.Alike key key' before r')
    (qs : List Query) :
    answers (Tally.ask Registry.count) qs r = answers (Tally.ask Registry.count) qs r' ∧
      (r.asked qs).Alike key key' before (r'.asked qs) :=
  answers_eq_of_related (fun q _ _ h => h.ask fits q) qs h

end Steps

namespace Counter.Alike

variable {c c' : Counter} (h : c.Alike key key' before c')

include h

theorem mode : c'.mode = c.mode := by cases h <;> rfl

theorem localEncoding (model : String) : c'.localEncoding model = c.localEncoding model := by
  cases h with
  | unlinked => rfl
  | live h => exact h.fallback

theorem describe : c'.describe = c.describe := by
  cases h with
  | unlinked => rfl
  | live h =>
    simp only [Counter.describe, LiveCounter.describe, h.fallback, h.answered, h.fallbacks]

/-- Both counters are live or neither is. -/
theorem live? : c.live? = none ∧ c'.live? = none ∨
    ∃ l l', c.live? = some l ∧ c'.live? = some l' ∧ l.Alike key key' before l' := by
  cases h with
  | unlinked _ unlinked =>
    cases c with
    | perModel | fixed => exact .inl ⟨rfl, rfl⟩
    | live => exact (unlinked rfl).elim
  | live h => exact .inr ⟨_, _, rfl, rfl, h⟩

end Counter.Alike

namespace Registry.Alike

variable {r r' : Registry} (h : r.Alike key key' before r')

include h

theorem bindings : r'.bindings = r.bindings := by
  simp only [Registry.bindings, (h _).mode]

theorem describe : r'.describe = r.describe := by
  have openAI : r'.openAI.describe = r.openAI.describe := (h .openAI).describe
  have anthropic : r'.anthropic.describe = r.anthropic.describe := (h .anthropic).describe
  rw [Registry.describe, Registry.describe, openAI, anthropic]

theorem siteAfter {s : Site} (hs : s.received = before) :
    (r.siteAfter s).Alike key key' before (r'.siteAfter s) := by
  have anthropic : r.anthropic.Alike key key' before r'.anthropic := h .anthropic
  obtain ⟨none, none'⟩ | ⟨l, l', live, live', alike⟩ := anthropic.live?
  · rw [Registry.siteAfter, Registry.siteAfter, none, none']
    exact hs ▸ .refl s
  · obtain ⟨t, t', ht, ht', alike⟩ := alike.responder.site?
    rw [Registry.siteAfter, Registry.siteAfter, live, live', Option.bind_some, Option.bind_some,
      ht, ht']
    exact alike

end Registry.Alike

/-- A registry that is made with a key is alike to one that is made with another. -/
theorem Registry.alike_ofAccess (a : Settings.Access) (site : Site) (h : key ≠ "")
    (h' : key' ≠ "") :
    (ofAccess (a.keyed key) site).Alike key key' site.received (ofAccess (a.keyed key') site) := by
  intro provider
  cases provider with
  | openAI => exact .unlinked .perModel nofun
  | anthropic =>
    simp only [counter, ofAccess, Settings.Access.keyed, Option.filter, h, h', ne_eq,
      not_false_eq_true, decide_true, if_true]
    exact .live ⟨.client (Client.ofAccess a "") (.refl site), rfl, rfl, rfl⟩

end TokenSurvey
