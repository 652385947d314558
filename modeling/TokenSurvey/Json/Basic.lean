import TokenSurvey.Text.Utf8

/-! JSON documents as trees. -/
namespace TokenSurvey

/-- A number as it is written: sign, whole part, digits after the point, power of ten. -/
structure Json.Number where
  negative : Bool := false
  whole : Nat
  fraction : List (Fin 10) := []
  exponent : Option Int := none
  deriving DecidableEq

/-- A gap in a text stands for a character that no reader can name. -/
inductive Json where
  | null
  | bool (value : Bool)
  | number (value : Json.Number)
  | string (text : Text.Gapped)
  | array (items : List Json)
  | object (members : List (Text.Gapped × Json))

namespace Json

def text (s : String) : Json := string (Text.ofString s)

def natural (n : Nat) : Json := number { whole := n }

def record (members : List (String × Json)) : Json :=
  object (members.map fun (name, value) => (Text.ofString name, value))

/-- The natural number that is written without sign, fraction and exponent. -/
def Number.natural? (n : Number) : Option Nat :=
  if n.negative = false ∧ n.fraction = [] ∧ n.exponent = none then some n.whole else none

end Json
end TokenSurvey
