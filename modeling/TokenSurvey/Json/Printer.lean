import TokenSurvey.Json.Basic

/-! Writing JSON, on one line or indented by two blanks a level. -/
namespace TokenSurvey.Json

open Text (Gapped)

def hexDigits (n : Nat) : List Char := [Nat.digitChar (n / 16), Nat.digitChar (n % 16)]

/-- Quotes, backslashes and controls are escaped, and nothing else; a gap is written as a surrogate. -/
def escaped : Option Char → List Char
  | none => ['\\', 'u', 'd', '8', '0', '0']
  | some c =>
    if c = '"' then ['\\', '"']
    else if c = '\\' then ['\\', '\\']
    else if c = '\x08' then ['\\', 'b']
    else if c = '\x0c' then ['\\', 'f']
    else if c = '\n' then ['\\', 'n']
    else if c = '\r' then ['\\', 'r']
    else if c = '\t' then ['\\', 't']
    else if c.toNat < 0x20 then ['\\', 'u', '0', '0'] ++ hexDigits c.toNat
    else [c]

def quoted (s : Gapped) : List Char := '"' :: s.flatMap escaped ++ ['"']

def digitsOf (n : Nat) : List Char := Nat.toDigits 10 n

def Number.exponentText : Option Int → List Char
  | none => []
  | some e => 'e' :: (if e < 0 then '-' else '+') :: digitsOf e.natAbs

def Number.show (n : Number) : List Char :=
  (if n.negative then ['-'] else []) ++ digitsOf n.whole ++
    (if n.fraction = [] then [] else '.' :: n.fraction.map fun d => Nat.digitChar d.val) ++
    exponentText n.exponent

def boolText (b : Bool) : List Char :=
  if b then ['t', 'r', 'u', 'e'] else ['f', 'a', 'l', 's', 'e']

mutual

def compact : Json → List Char
  | null => ['n', 'u', 'l', 'l']
  | bool b => boolText b
  | number n => n.show
  | string t => quoted t
  | array [] => ['[', ']']
  | array (v :: vs) => '[' :: compact v ++ compactItems vs ++ [']']
  | object [] => ['\x7b', '\x7d']
  | object ((n, v) :: ms) =>
    '\x7b' :: quoted n ++ ':' :: compact v ++ compactMembers ms ++ ['\x7d']

def compactItems : List Json → List Char
  | [] => []
  | v :: vs => ',' :: compact v ++ compactItems vs

def compactMembers : List (Gapped × Json) → List Char
  | [] => []
  | (n, v) :: ms => ',' :: quoted n ++ ':' :: compact v ++ compactMembers ms

end

/-- A new line at a level. -/
def newline (level : Nat) : List Char := '\n' :: List.replicate (2 * level) ' '

mutual

/-- The first line stands where it is put; the following ones are indented from `level`. -/
def pretty (level : Nat) : Json → List Char
  | null => ['n', 'u', 'l', 'l']
  | bool b => boolText b
  | number n => n.show
  | string t => quoted t
  | array [] => ['[', ']']
  | array (v :: vs) =>
    '[' :: newline (level + 1) ++ pretty (level + 1) v ++ prettyItems (level + 1) vs ++
      newline level ++ [']']
  | object [] => ['\x7b', '\x7d']
  | object ((n, v) :: ms) =>
    '\x7b' :: newline (level + 1) ++ quoted n ++ ':' :: ' ' :: pretty (level + 1) v ++
      prettyMembers (level + 1) ms ++ newline level ++ ['\x7d']

def prettyItems (level : Nat) : List Json → List Char
  | [] => []
  | v :: vs => ',' :: newline level ++ pretty level v ++ prettyItems level vs

def prettyMembers (level : Nat) : List (Gapped × Json) → List Char
  | [] => []
  | (n, v) :: ms =>
    ',' :: newline level ++ quoted n ++ ':' :: ' ' :: pretty level v ++ prettyMembers level ms

end

end TokenSurvey.Json
