import Mathlib
import TokenSurvey.Proofs.Json.Parsing
import TokenSurvey.Proofs.Service.Requests

/-! What a client makes of the reply: a count, or a fault that tells what went wrong. -/
namespace TokenSurvey.Service

open Tokens (encodeText)

/-- A document that tells a count: in its one member of the right name, or as its one item. -/
inductive Tells : Json → Nat → Prop
  | member {before after : List (Text.Gapped × Json)} {n : Nat} : n < 2 ^ 64 →
      (∀ m ∈ before ++ after, m.1 ≠ Text.ofString "input_tokens" ∧ none ∉ m.1) →
      Tells (.object (before ++ (Text.ofString "input_tokens", .natural n) :: after)) n
  | item {n : Nat} : n < 2 ^ 64 → Tells (.array [.natural n]) n

theorem natural?_eq_some_iff {m : Json.Number} {n : Nat} :
    m.natural? = some n ↔ m = { whole := n } := by
  obtain ⟨negative, whole, fraction, exponent⟩ := m
  simp only [Json.Number.natural?, Json.Number.mk.injEq]
  grind

theorem tokenCount?_eq_some_iff {v : Json} {n : Nat} :
    tokenCount? v = some n ↔ v = .natural n ∧ n < 2 ^ 64 := by
  cases v with
  | number m =>
    simp only [tokenCount?, Option.bind_eq_some_iff, natural?_eq_some_iff, Json.natural,
      Json.number.injEq]
    constructor
    · rintro ⟨count, rfl, h⟩
      split at h
      · next small =>
        obtain rfl := Option.some.inj h
        exact ⟨rfl, small⟩
      · cases h
    · rintro ⟨rfl, small⟩
      exact ⟨n, rfl, if_pos small⟩
  | _ => simp [tokenCount?, Json.natural]

theorem filter_name_eq_singleton_iff {members : List (Text.Gapped × Json)}
    {m : Text.Gapped × Json} : members.filter (fun (name, _) => name = countName) = [m] ↔
      m.1 = countName ∧ ∃ before after, members = before ++ m :: after ∧
        ∀ other ∈ before ++ after, other.1 ≠ countName := by
  simp only [List.filter_eq_cons_iff, List.filter_eq_nil_iff, decide_eq_true_eq,
    List.forall_mem_append]
  constructor
  · rintro ⟨before, after, rfl, hbefore, hname, hafter⟩
    exact ⟨hname, before, after, rfl, hbefore, hafter⟩
  · rintro ⟨hname, before, after, rfl, hbefore, hafter⟩
    exact ⟨before, after, rfl, hbefore, hname, hafter⟩

theorem names_valid_iff {members : List (Text.Gapped × Json)} :
    (members.all fun (name, _) => name.all (·.isSome)) = true ↔ ∀ m ∈ members, none ∉ m.1 := by
  simp only [List.all_eq_true, Option.isSome_iff_ne_none]
  refine forall₂_congr fun m _ => ⟨fun h absent => h none absent rfl, fun h c hc heq => ?_⟩
  exact h (heq ▸ hc)

theorem documentCount?_eq_some_iff {v : Json} {n : Nat} :
    documentCount? v = some n ↔ Tells v n := by
  constructor
  · intro h
    fun_cases documentCount? v
    case case1 members valid name value hfilter =>
      rw [documentCount?, if_pos valid, hfilter] at h
      obtain ⟨rfl, small⟩ := tokenCount?_eq_some_iff.mp h
      obtain ⟨rfl, before, after, rfl, others⟩ := filter_name_eq_singleton_iff.mp hfilter
      have valid := names_valid_iff.mp valid
      exact .member small fun m hm => ⟨others m hm, valid m (by grind)⟩
    case case4 value =>
      obtain ⟨rfl, small⟩ := tokenCount?_eq_some_iff.mp h
      exact .item small
    case case2 members valid other =>
      rw [documentCount?, if_pos valid] at h
      split at h
      · next name value hfilter => exact absurd hfilter (other name value)
      · cases h
    case case3 members invalid =>
      rw [documentCount?, if_neg invalid] at h
      cases h
    case case5 => simp_all [documentCount?]
  · intro h
    cases h with
    | @member before after n small others =>
      have valid : ∀ m ∈ before ++ (Text.ofString "input_tokens", Json.natural n) :: after,
          none ∉ m.1 := by
        intro m hm
        rw [List.mem_append, List.mem_cons] at hm
        rcases hm with hm | rfl | hm
        · exact (others m (by simp [hm])).2
        · change none ∉ Text.ofString "input_tokens"
          decide
        · exact (others m (by simp [hm])).2
      let told : Text.Gapped × Json := (Text.ofString "input_tokens", .natural n)
      have one := filter_name_eq_singleton_iff (m := told).mpr
        ⟨rfl, before, after, rfl, fun m hm => (others m hm).1⟩
      rw [documentCount?, if_pos (names_valid_iff.mpr valid), one]
      exact tokenCount?_eq_some_iff.mpr ⟨rfl, small⟩
    | item small => exact tokenCount?_eq_some_iff.mpr ⟨rfl, small⟩

theorem bodyCount?_eq_some_iff {body : List UInt8} {n : Nat} :
    bodyCount? body = some n ↔ ∃ v, Text.decode body ∈ Json.documents v ∧ Tells v n := by
  simp only [bodyCount?, Option.bind_eq_some_iff, Json.read?_eq_some_iff,
    documentCount?_eq_some_iff]

namespace Message

variable {m : Message}

theorem outcome_of_not_succeeds (h : m.status < 200 ∨ 300 ≤ m.status) :
    m.outcome = .error (.rejected m.status
      (m.body.elim "" fun bytes => Text.lossy (Text.decode bytes))) := by
  have fails : succeeds m.status = false := by
    simp [succeeds]
    omega
  rw [outcome, fails]
  rfl

theorem outcome_eq_ok_iff (low : 200 ≤ m.status) (high : m.status < 300) {n : Nat} :
    m.outcome = .ok n ↔ ∃ body v,
      m.body = some body ∧ Text.decode body ∈ Json.documents v ∧ Tells v n := by
  have count : m.body.bind bodyCount? = some n ↔ ∃ body v,
      m.body = some body ∧ Text.decode body ∈ Json.documents v ∧ Tells v n := by
    simp only [Option.bind_eq_some_iff, bodyCount?_eq_some_iff, exists_and_left]
  rw [outcome, if_pos (by simp [succeeds, low, high]), ← count]
  cases m.body.bind bodyCount? <;> simp

theorem outcome_of_no_count (low : 200 ≤ m.status) (high : m.status < 300)
    (h : ∀ n, m.outcome ≠ .ok n) : ∃ detail, m.outcome = .error (.malformedResponse detail) := by
  rw [outcome, if_pos (by simp [succeeds, low, high])] at h ⊢
  cases hc : m.body.bind bodyCount? with
  | none => exact ⟨_, rfl⟩
  | some n =>
    rw [hc] at h
    exact absurd rfl (h n)

theorem isPrecondition_of_outcome {fault : Fault} (h : m.outcome = .error fault) :
    fault.isPrecondition = false := by
  rw [outcome] at h
  split at h
  · split at h
    · cases h
    · obtain rfl := Except.error.inj h
      rfl
  · obtain rfl := Except.error.inj h
    rfl

end Message

namespace Client

variable {c : Client} {site : Site} {m : Message}

/-- The message that arrives when a client asks. -/
inductive Gets (c : Client) (site : Site) : Message → Prop
  | mk {a : Address} {target : String} {reply : Reply} {replies : List Reply} {m : Message} :
      c.Reaches site a target → site.replies = reply :: replies → reply.message? = some m →
      Gets c site m

theorem Reaches.gets {a : Address} {target : String} {body : List UInt8} {replies : List Reply}
    (h : c.Reaches site a target) (hr : site.replies = .response 200 body true :: replies) :
    c.Gets site { status := 200, body := some body } := .mk h hr rfl

theorem ask_of_gets (h : c.Gets site m) (model text : String) :
    (c.ask site model text).1 = m.outcome := by
  obtain ⟨reaches, replies, message⟩ := h
  rw [ask, reaches.canSend, reaches.request?]
  simp [replies, Reply.outcome, message]

/-- A server without replies closes the connection. -/
theorem message?_nil : (Reply.bytes []).message? = none := by
  rw [Reply.message?, Message.ofBytes?, List.map_nil, Message.read?]
  rfl

theorem request?_eq_some_iff {model text : String} {request : Request} :
    c.request? site model text = some request ↔
      ∃ a, Address.ofText? site.network.spell? c.endpoint = some a ∧
        ∃ target, site.targetOf? a = some target ∧ c.request a target model text = request := by
  simp only [request?, Option.bind_eq_bind, Option.bind_eq_some_iff, Option.some.injEq]

theorem ask_of_not_gets (h : ∀ m, ¬ c.Gets site m) (model text : String) :
    ∃ detail, (c.ask site model text).1 = .error (.network detail) := by
  have lost {reply : Reply} (h : reply.message? = none) :
      reply.outcome = .error (.network "connection closed before a complete reply") := by
    rw [Reply.outcome, h]
  rw [ask]
  split
  · exact ⟨_, rfl⟩
  · next sends =>
    simp only [canSend, Bool.not_eq_true', Bool.not_eq_false, Bool.and_eq_true] at sends
    split
    · exact ⟨_, rfl⟩
    · next request arrives =>
      obtain ⟨a, endpoint, target, reached, -⟩ := request?_eq_some_iff.mp arrives
      have reaches : c.Reaches site a target := ⟨sends.1, sends.2, endpoint, reached⟩
      cases replies : site.replies with
      | nil => exact ⟨_, lost message?_nil⟩
      | cons reply others =>
        cases message : reply.message? with
        | none => exact ⟨_, lost message⟩
        | some m => exact absurd (.mk reaches replies message) (h m)

end Client

/-- Outside 200 to 299 a message is rejected with its text. Within, the body is a document that tells a
count, or it is malformed; what is no UTF-8 in a body leaves gaps, which can stand in strings only. -/
theorem replies_are_classified (c : Client) (site : Site) (model text : String) :
    let outcome := (c.ask site model text).1
    (∀ m, c.Gets site m →
      (m.status < 200 ∨ 300 ≤ m.status →
        ∃ shown, outcome = .error (.rejected m.status shown) ∧ (m.body = none → shown = "") ∧
          (∀ body, m.body = some body → shown = Text.lossy (Text.decode body)) ∧
          ∀ t, m.body = some (encodeText t.toList) → shown = t) ∧
      (200 ≤ m.status → m.status < 300 →
        (∀ t, m.body = some (encodeText t.toList) → ∀ n, outcome = .ok n ↔
          ∃ v, Text.ofString t ∈ Json.documents v ∧ Tells v n) ∧
        (∀ n, outcome = .ok n ↔
          ∃ body v, m.body = some body ∧ Text.decode body ∈ Json.documents v ∧ Tells v n) ∧
        ((∀ n, outcome ≠ .ok n) → ∃ detail, outcome = .error (.malformedResponse detail)))) ∧
    ((∀ m, ¬ c.Gets site m) → ∃ detail, outcome = .error (.network detail)) ∧
    ∀ fault, outcome = .error fault → fault.isPrecondition = false := by
  intro outcome
  refine ⟨fun m gets => ?_, fun h => Client.ask_of_not_gets h model text, fun fault h => ?_⟩
  · have asked : outcome = m.outcome := Client.ask_of_gets gets model text
    rw [asked]
    refine ⟨fun outside => ?_, fun low high => ⟨fun t body n => ?_, fun n => ?_, ?_⟩⟩
    · refine ⟨_, Message.outcome_of_not_succeeds outside, ?_, ?_, ?_⟩
      · rintro none
        rw [none]
        rfl
      · rintro body some
        rw [some]
        rfl
      · rintro t some
        rw [some]
        exact Text.lossy_decode_encodeText t
    · rw [Message.outcome_eq_ok_iff low high, body]
      simp [Text.decode_encodeText, Text.ofString]
    · exact Message.outcome_eq_ok_iff low high
    · exact Message.outcome_of_no_count low high
  · by_cases gets : ∃ m, c.Gets site m
    · obtain ⟨m, gets⟩ := gets
      exact Message.isPrecondition_of_outcome ((Client.ask_of_gets gets model text).symm.trans h)
    · obtain ⟨detail, network⟩ :=
        Client.ask_of_not_gets (fun m gets' => gets ⟨m, gets'⟩) model text
      obtain rfl := Except.error.inj (h.symm.trans network)
      rfl

/-- The endpoint of a server on the machine itself. -/
def localAddress : Address where
  secure := false
  host := .short 0x7F000001
  port := none
  target := "/v1/messages/count_tokens"

/-- The name is written with an escape, next to a member of another name. -/
theorem replies_are_classified_escaped :
    let c : Client :=
      { endpoint := Client.endpointOf "http://127.0.0.1", key := "k", version := "1" }
    let sent := "\x7b\"a\" : [1e5, null],\"input\\u005ftokens\": 7\x7d\n"
    let site : Site := {
      network := { answers := fun secure _ port => !secure && port = 80 }
      replies := [.response 200 (encodeText sent.toList) true] }
    c.Gets site { status := 200, body := some (encodeText sent.toList) } ∧
    (∃ v, Text.ofString sent ∈ Json.documents v ∧ Tells v 7) ∧
    (c.ask site "model" "text").1 = .ok 7 := by
  intro c sent site
  have reaches : c.Reaches site localAddress "/v1/messages/count_tokens" :=
    Client.reaches_of_answersAt (by decide) (by decide) (by decide +kernel) rfl rfl
  have gets := reaches.gets rfl
  let other : Json := .array [.number { whole := 1, exponent := some 5 }, .null]
  let v : Json :=
    .object ([(Text.ofString "a", other)] ++ (Text.ofString "input_tokens", .natural 7) :: [])
  have tells : Tells v 7 := .member (by decide) (by decide)
  have read : Json.read? (Text.ofString sent) = some v := by cbv
  have document : ∃ v, Text.ofString sent ∈ Json.documents v ∧ Tells v 7 :=
    ⟨v, Json.read?_eq_some_iff.mp read, tells⟩
  obtain ⟨arrived, -, -⟩ := replies_are_classified c site "model" "text"
  obtain ⟨count, -, -⟩ := (arrived _ gets).2 (by decide) (by decide)
  exact ⟨gets, document, (count sent rfl 7).mpr document⟩

/-- A count beside a string that holds a byte of no character. -/
def strayBody : List UInt8 :=
  encodeText "\x7b\"a\":\"".toList ++ 0xFF :: encodeText "\",\"input_tokens\":5\x7d".toList

theorem count_stands_beside_stray_byte :
    let c : Client :=
      { endpoint := Client.endpointOf "http://127.0.0.1", key := "k", version := "1" }
    let site : Site := {
      network := { answers := fun secure _ port => !secure && port = 80 }
      replies := [.response 200 strayBody true] }
    c.Gets site { status := 200, body := some strayBody } ∧
    (∀ t : String, strayBody ≠ encodeText t.toList) ∧
    (c.ask site "model" "text").1 = .ok 5 ∧
    ∀ detail, (c.ask site "model" "text").1 ≠ .error (.malformedResponse detail) := by
  intro c site
  have reaches : c.Reaches site localAddress "/v1/messages/count_tokens" :=
    Client.reaches_of_answersAt (by decide) (by decide) (by decide +kernel) rfl rfl
  have gets : c.Gets site { status := 200, body := some strayBody } := reaches.gets rfl
  have stray : Text.strict? (Text.decode strayBody) = none := by cbv
  have count : bodyCount? strayBody = some 5 := by cbv
  have told : (c.ask site "model" "text").1 = .ok 5 := by
    rw [Client.ask_of_gets gets, Message.outcome_eq_ok_iff (by decide) (by decide)]
    obtain ⟨v, document, tells⟩ := bodyCount?_eq_some_iff.mp count
    exact ⟨strayBody, v, rfl, document, tells⟩
  refine ⟨gets, fun t whole => ?_, told, fun detail h => by simp [told] at h⟩
  rw [whole, Text.strict?_decode_encodeText] at stray
  cases stray

end TokenSurvey.Service
