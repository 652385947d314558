/-! Natural numbers of at most 64 bits in decimal, with a plus sign or without. -/
namespace TokenSurvey.Text.Numeral

inductive Fault where
  | empty
  | invalidDigit
  | tooLarge
  deriving DecidableEq

def Fault.message : Fault → String
  | empty => "cannot parse integer from empty string"
  | invalidDigit => "invalid digit found in string"
  | tooLarge => "number too large to fit in target type"

/-- Reads digits onto a value; of several faults the leftmost counts. -/
def readDigits (value : Nat) : List Char → Except Fault Nat
  | [] => .ok value
  | c :: s =>
    if c.isDigit then
      let value := value * 10 + (c.toNat - 48)
      if value < UInt64.size then readDigits value s else .error .tooLarge
    else .error .invalidDigit

/-- A sign alone is no number. -/
def read : List Char → Except Fault Nat
  | [] => .error .empty
  | ['+'] => .error .invalidDigit
  | '+' :: s => readDigits 0 s
  | s => readDigits 0 s

end TokenSurvey.Text.Numeral
