import TokenSurvey.Unicode.Letter
import TokenSurvey.Unicode.Mark
import TokenSurvey.Unicode.Recent
import TokenSurvey.Unicode.Visible

/-! The classes of characters that splitting and quoting tell apart. -/
namespace TokenSurvey.Unicode

inductive Class where
  | upper
  | lower
  | uncased
  | attached
  | spacing
  | number
  | visible
  | hidden
  deriving DecidableEq

def within (ranges : List (Nat × Nat)) (code : Nat) : Bool :=
  ranges.any fun (first, last) => first ≤ code && code ≤ last

/-- In an alternating range the letters at an even distance from its first are in upper case. -/
def alternation? (code : Nat) : Option Class :=
  (alternatingRanges.find? fun (first, last) => first ≤ code && code ≤ last).map
    fun (first, _) => if (code - first) % 2 = 0 then .upper else .lower

/-- Controls, formats, separators and unassigned codes are hidden. -/
def wideClass (code : Nat) : Class :=
  if within uncasedRanges code then .uncased
  else if within visibleRanges code then .visible
  else if within lowerRanges code then .lower
  else if within upperRanges code then .upper
  else if within attachedRanges code then .attached
  else if within spacingRanges code then .spacing
  else if within numberRanges code then .number
  else (alternation? code).getD .hidden

/-- The plain characters from the blank to the tilde are decided without a table. -/
def classOf (c : Char) : Class :=
  let code := c.toNat
  if code < 0x20 then .hidden
  else if code < 0x7F then
    if c.isLower then .lower
    else if c.isUpper then .upper
    else if c.isDigit then .number
    else .visible
  else wideClass code

/-- The class before version 17, which took its case from the voiced pharyngeal fricative. -/
def formerClassOf (c : Char) : Class :=
  let code := c.toNat
  if code = 0x295 then .lower
  else if 0x7F < code && within recentRanges code then .hidden
  else classOf c

def isLetter (c : Char) : Bool :=
  match formerClassOf c with
  | .upper | .lower | .uncased => true
  | _ => false

def isNumber (c : Char) : Bool := formerClassOf c = .number

/-- White space: five controls and the blank, next line, and the separators. -/
def isSpace (c : Char) : Bool :=
  let code := c.toNat
  (0x09 ≤ code && code ≤ 0x0D) || code = 0x20 || code = 0x85 || code = 0xA0 || code = 0x1680 ||
    (0x2000 ≤ code && code ≤ 0x200A) || code = 0x2028 || code = 0x2029 || code = 0x202F ||
    code = 0x205F || code = 0x3000

def trimLeft (s : List Char) : List Char := s.dropWhile isSpace

def trim (s : List Char) : List Char := (trimLeft (trimLeft s).reverse).reverse

end TokenSurvey.Unicode
