/-! Natural numbers in digits of a radix up to 36, with capitals or without. -/
namespace TokenSurvey.Text

def digit? (radix : Nat) (c : Char) : Option Nat :=
  let value :=
    if c.isDigit then c.toNat - 48
    else if c.isLower then c.toNat - 87
    else if c.isUpper then c.toNat - 55
    else radix
  if value < radix then some value else none

/-- No digits at all are zero. -/
def ofDigits? (radix : Nat) (s : List Char) : Option Nat :=
  (s.mapM (digit? radix)).map fun digits => digits.foldl (fun n d => n * radix + d) 0

end TokenSurvey.Text
