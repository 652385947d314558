import TokenSurvey.Fault
import TokenSurvey.Json.Printer
import TokenSurvey.Json.Reader

/-! Reading and writing a choice among names. -/
namespace TokenSurvey.Json

/-- A choice is its name, or an object with that one name and nothing in it. -/
def chosenName? : Json → Option Text.Gapped
  | .string name => some name
  | .object [(name, .null)] => some name
  | _ => none

/-- The choice that a document makes among `all`. -/
def readChoice {α : Type} (nameOf : α → String) (all : List α) (document : String) : Except Fault α :=
  let chosen := (read? (Text.ofString document)).bind chosenName?
  match chosen.bind fun name => all.find? fun a => Text.ofString (nameOf a) = name with
  | some a => .ok a
  | none => .error (.json "no such choice")

def writeChoice {α : Type} (nameOf : α → String) (a : α) : String := String.ofList (text (nameOf a)).compact

end TokenSurvey.Json
