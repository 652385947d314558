/-! Values of a TOML document. -/
namespace TokenSurvey

/-- Floats and moments keep their literal only. -/
inductive Toml where
  | string (text : String)
  | integer (value : Int)
  | float (literal : String)
  | boolean (value : Bool)
  | moment (literal : String)
  | array (items : List Toml)
  | table (entries : List (String × Toml))

namespace Toml

/-- What a reader makes of the start of a text, and the rest of the text. -/
abbrev Reader (α : Type) := List Char → Option (α × List Char)

def isBlank (c : Char) : Bool := c = ' ' || c = '\t'

def skipBlanks (s : List Char) : List Char := s.dropWhile isBlank

/-- Tabs are the only control characters outside line breaks. -/
def isPlain (c : Char) : Bool := c = '\t' || (0x20 ≤ c.toNat && c.toNat ≠ 0x7F)

/-- The rest after a comment, if it holds plain characters only. -/
def skipComment : List Char → Option (List Char)
  | '#' :: s =>
    match s.dropWhile isPlain with
    | [] => some []
    | '\n' :: s => some ('\n' :: s)
    | '\r' :: '\n' :: s => some ('\r' :: '\n' :: s)
    | _ => none
  | s => some s

/-- Blanks, a comment perhaps, and the end of the line or of the text. -/
def endLine (s : List Char) : Option (List Char) :=
  match skipComment (skipBlanks s) with
  | some [] => some []
  | some ('\n' :: s) => some s
  | some ('\r' :: '\n' :: s) => some s
  | _ => none

/-- Passes over blanks, line breaks and comments between the items of an array. -/
def skipSpace (inComment : Bool) : List Char → Option (List Char)
  | [] => some []
  | '\n' :: s => skipSpace false s
  | '\r' :: '\n' :: s => skipSpace false s
  | c :: s =>
    if inComment then if isPlain c then skipSpace true s else none
    else if isBlank c then skipSpace false s
    else if c = '#' then skipSpace true s
    else some (c :: s)

def isDigit (c : Char) : Bool := c.isDigit

def isHexDigit (c : Char) : Bool := c.isDigit || ('a' ≤ c && c ≤ 'f') || ('A' ≤ c && c ≤ 'F')

def digitValue (c : Char) : Nat :=
  if c.isDigit then c.toNat - 48 else if 'a' ≤ c then c.toNat - 87 else c.toNat - 55

def ofDigits (base : Nat) (ds : List Char) : Nat := ds.foldl (fun n d => n * base + digitValue d) 0

end Toml
end TokenSurvey
