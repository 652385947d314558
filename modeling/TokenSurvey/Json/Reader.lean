import TokenSurvey.Json.Lexeme

/-! Reading a JSON text, lexeme by lexeme, on a stack of what is still open. -/
namespace TokenSurvey.Json

open Text (Gapped)

/-- What stands before a value in the array or object that holds it, the latest first. -/
inductive Frame where
  | items (before : List Json)
  | members (before : List (Gapped × Json)) (name : Gapped)

/-- What the lexemes so far ask for next. -/
inductive State where
  | value (frames : List Frame)
  | firstItem (frames : List Frame)
  | firstName (frames : List Frame)
  | name (before : List (Gapped × Json)) (frames : List Frame)
  | colon (before : List (Gapped × Json)) (name : Gapped) (frames : List Frame)
  | after (value : Json) (frames : List Frame)

namespace State

/-- A lexeme where a value must begin. -/
def opening (frames : List Frame) : Lexeme → Option State
  | .openArray => some (firstItem frames)
  | .openObject => some (firstName frames)
  | .null => some (after .null frames)
  | .bool b => some (after (.bool b) frames)
  | .number n => some (after (.number n) frames)
  | .text t => some (after (.string t) frames)
  | _ => none

/-- A lexeme after a value that is complete. -/
def following (v : Json) : List Frame → Lexeme → Option State
  | .items before :: frames, .comma => some (value (.items (v :: before) :: frames))
  | .items before :: frames, .closeArray => some (after (.array (v :: before).reverse) frames)
  | .members before n :: frames, .comma => some (name ((n, v) :: before) frames)
  | .members before n :: frames, .closeObject =>
    some (after (.object ((n, v) :: before).reverse) frames)
  | _, _ => none

def step : State → Lexeme → Option State
  | value frames, t => opening frames t
  | firstItem frames, .closeArray => some (after (.array []) frames)
  | firstItem frames, t => opening (.items [] :: frames) t
  | firstName frames, .closeObject => some (after (.object []) frames)
  | firstName frames, .text n => some (colon [] n frames)
  | name before frames, .text n => some (colon before n frames)
  | colon before n frames, .colon => some (value (.members before n :: frames))
  | after v frames, t => following v frames t
  | _, _ => none

end State

/-- The document that a text holds, with nothing but blanks around it. -/
def read? (s : Gapped) : Option Json := do
  match ← (← Lexeme.scan s).foldlM State.step (.value []) with
  | .after v [] => some v
  | _ => none

end TokenSurvey.Json
