import TokenSurvey.Fault
import TokenSurvey.Json.Reader
import TokenSurvey.Service.Message

/-! What the counting service replies, and the count or the fault that a reply means. -/
namespace TokenSurvey.Service

/-- The end of one call. -/
abbrev Outcome := Except Fault Nat

/-- What a server sends: plain bytes, or a status with a body, whole or cut short. -/
inductive Reply where
  | bytes (sent : List UInt8)
  | response (status : Nat) (body : List UInt8) (isWhole : Bool)

/-- A count is a plain natural number of at most 64 bits. -/
def tokenCount? : Json → Option Nat
  | .number n => n.natural?.bind fun count => if count < UInt64.size then some count else none
  | _ => none

def countName : Text.Gapped := Text.ofString "input_tokens"

/-- An object with one member of the right name, or an array of one item. -/
def documentCount? : Json → Option Nat
  | .object members =>
    if members.all fun (name, _) => name.all (·.isSome) then
      match members.filter fun (name, _) => name = countName with
      | [(_, value)] => tokenCount? value
      | _ => none
    else none
  | .array [value] => tokenCount? value
  | _ => none

def bodyCount? (body : List UInt8) : Option Nat :=
  (Json.read? (Text.decode body)).bind documentCount?

def succeeds (status : Nat) : Bool := 200 ≤ status && status < 300

/-- What follows an announcement is read as the message that is announced. -/
def Reply.message? : Reply → Option Message
  | bytes sent => Message.ofBytes? sent
  | response status body isWhole =>
    if !Message.isStatus status then none
    else if Message.announces status then Message.ofBytes? body
    else if Message.lacksBody status then some { status, body := some [] }
    else some { status, body := if isWhole then some body else none }

/-- Outside 200 to 299 the body is only quoted, whatever it holds. -/
def Message.outcome (m : Message) : Outcome :=
  if succeeds m.status then
    match m.body.bind bodyCount? with
    | some count => .ok count
    | none => .error (.malformedResponse "no token count in the reply")
  else .error (.rejected m.status (m.body.elim "" fun bytes => Text.lossy (Text.decode bytes)))

def Reply.outcome (r : Reply) : Outcome :=
  match r.message? with
  | some message => message.outcome
  | none => .error (.network "connection closed before a complete reply")

end TokenSurvey.Service
