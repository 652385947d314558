import TokenSurvey.Service.Host

/-! Addresses on the web, read as leniently as browsers do. -/
namespace TokenSurvey.Service

/-- Where a request goes, and the target that it names there. -/
structure Address where
  secure : Bool
  host : Host
  port : Option Nat
  target : String
  deriving DecidableEq

/-- The port of an address that gives none. -/
def schemePort (secure : Bool) : Nat := if secure then 443 else 80

namespace Address

/-- Controls and blanks around an address do not count. -/
def isMargin (c : Char) : Bool := c.toNat ≤ 0x20

/-- Tabs and line breaks do not count wherever they are. -/
def isBreak (c : Char) : Bool := c = '\t' || c = '\n' || c = '\r'

def cleaned (s : List Char) : List Char :=
  (((s.dropWhile isMargin).reverse.dropWhile isMargin).reverse).filter fun c => !isBreak c

/-- A backslash is a slash too. -/
def isSlash (c : Char) : Bool := c = '/' || c = '\\'

/-- Whether the scheme asks for a secure connection, and what follows its colon. -/
def scheme? (s : List Char) : Option (Bool × List Char) :=
  match s.dropWhile (· ≠ ':') with
  | [] => none
  | _ :: rest =>
    let name := (s.takeWhile (· ≠ ':')).map Char.toLower
    if name = "http".toList then some (false, rest)
    else if name = "https".toList then some (true, rest)
    else none

/-- The host ends at the first colon that no bracket encloses. -/
def splitHost (enclosed : Bool) : List Char → List Char × List Char
  | [] => ([], [])
  | c :: s =>
    if c = ':' && !enclosed then ([], c :: s)
    else
      let (host, rest) := splitHost (c = '[' || (enclosed && c ≠ ']')) s
      (c :: host, rest)

/-- No digits, and the scheme's own port, are no port. -/
def port? (secure : Bool) (digits : List Char) : Option (Option Nat) :=
  if digits.all Char.isDigit then
    match Text.ofDigits? 10 digits with
    | some port =>
      if 65535 < port then none
      else some (if digits = [] ∨ port = schemePort secure then none else some port)
    | none => none
  else none

/-- A host and a port, after what the last at sign ends. -/
def place? (spell? : Host.Spelling) (secure : Bool) (authority : List Char) :
    Option (Host × Option Nat) := do
  let (host, rest) := splitHost false (authority.reverse.takeWhile (· ≠ '@')).reverse
  some (← Host.ofText? spell? host, ← port? secure (rest.drop 1))

def hexDigit (n : Nat) : Char := (Nat.digitChar n).toUpper

def escaped (b : UInt8) : List Char :=
  ['%', hexDigit (b.toNat / 16), hexDigit (b.toNat % 16)]

/-- A character that may not stand in an address is written as the codes of its bytes. -/
def written (forbidden : String) (c : Char) : List Char :=
  if 0x20 < c.toNat ∧ c.toNat < 0x7F ∧ c ∉ forbidden.toList then [c]
  else (String.utf8EncodeChar c).flatMap escaped

/-- The number of dots in a segment of nothing else; a dot may be written as its code. -/
def dots? : List Char → Option Nat
  | [] => some 0
  | '.' :: s => (dots? s).map (· + 1)
  | '%' :: '2' :: e :: s => if e.toLower = 'e' then (dots? s).map (· + 1) else none
  | _ => none

/-- A letter before a colon or a bar. -/
def isDrive : List Char → Bool
  | [letter, mark] => letter.isAlpha && (mark = ':' || mark = '|')
  | _ => false

/-- There is no way up from a drive, or from the top. -/
def up : List (List Char) → List (List Char)
  | [] => []
  | segment :: above => if isDrive segment then segment :: above else above

/-- One dot is the place itself, two are the one above it; at the end both stand for a folder.
The segments so far are given backwards. -/
def resolve (above : List (List Char)) : List (List Char) → List (List Char)
  | [] => above.reverse
  | segment :: segments =>
    let settled (place : List (List Char)) := if segments = [] then [] :: place else place
    match dots? segment with
    | some 1 => resolve (settled above) segments
    | some 2 => resolve (settled (up above)) segments
    | _ => resolve (segment.flatMap (written "\"<>`\x7b\x7d") :: above) segments

def path (s : List Char) : List Char :=
  let segments := Text.pieces '/' ((s.drop 1).map fun c => if isSlash c then '/' else c)
  (resolve [] segments).flatMap fun segment => '/' :: segment

/-- The question mark stays as it is. -/
def query : List Char → List Char
  | [] => []
  | mark :: s => mark :: s.flatMap (written "\"<>'")

/-- What follows a number sign is not asked for. -/
def fragment : List Char → List Char
  | [] => []
  | mark :: s => mark :: s.flatMap (written "\"<>`")

def portNumber (a : Address) : Nat := a.port.getD (schemePort a.secure)

/-- The host that a request names. -/
def authority (a : Address) : String :=
  let port := match a.port with
    | some port => ":" ++ toString port
    | none => ""
  String.ofList a.host.text ++ port

/-- The whole address, for one who passes the request on. -/
def whole (a : Address) : String :=
  (if a.secure then "https://" else "http://") ++ a.authority ++ a.target

/-- The most characters that an address has, with what is not asked for. -/
def longest : Nat := 65534

def ofText? (spell? : Host.Spelling) (text : String) : Option Address := do
  let (secure, rest) ← scheme? (cleaned text.toList)
  let named := rest.dropWhile isSlash
  let asked := named.takeWhile (· ≠ '#')
  let authority := asked.takeWhile fun c => !isSlash c && c ≠ '?'
  let (host, port) ← place? spell? secure authority
  let below := asked.drop authority.length
  let target := path (below.takeWhile (· ≠ '?')) ++ query (below.dropWhile (· ≠ '?'))
  let address : Address := { secure, host, port, target := String.ofList target }
  if address.whole.length + (fragment (named.drop asked.length)).length ≤ longest then some address
  else none

end Address
end TokenSurvey.Service
