import TokenSurvey.Text.Pieces
import TokenSurvey.Text.Radix

/-! Messages of a server, read from bytes as long as they arrive. -/
namespace TokenSurvey.Service

/-- What a server says; the body is `none` if it ends before its announced end. -/
structure Message where
  status : Nat
  body : Option (List UInt8)

/-- How far a body goes. -/
inductive Extent where
  | chunks
  | bytes (count : Nat)
  | rest
  deriving DecidableEq

namespace Message

/-- A status has three digits. -/
def isStatus (n : Nat) : Bool := 100 ≤ n && n < 1000

/-- Below 200 a status only announces the reply, unless it switches protocols. -/
def announces (status : Nat) : Bool := status < 200 && status ≠ 101

/-- After a switch of protocols, without content or for unchanged content there is no body. -/
def lacksBody (status : Nat) : Bool := status = 101 || status = 204 || status = 304

/-- A byte as the character of its number. -/
def character (b : UInt8) : Char := Char.ofNat b.toNat

def byte (c : Char) : UInt8 := UInt8.ofNat c.toNat

/-- A line holds no control but the tab. -/
def isText (c : Char) : Bool := c = '\t' || (0x20 ≤ c.toNat && c.toNat ≠ 0x7F)

/-- The first line, which a return may end before the line feed, and what follows it. -/
def line? (s : List Char) : Option (List Char × List Char) :=
  match s.dropWhile isText with
  | '\n' :: rest | '\r' :: '\n' :: rest => some (s.takeWhile isText, rest)
  | _ => none

/-- Empty lines before a message do not count. -/
def start : List Char → List Char
  | '\n' :: s | '\r' :: '\n' :: s => start s
  | s => s

/-- Whether the version is 1.0, and the status; a reason may follow. -/
def opening? (line : List Char) : Option (Bool × Nat) :=
  let older := line.take 9 = "HTTP/1.0 ".toList
  let code := (line.drop 9).take 3
  let reason := line.drop 12
  if (older ∨ line.take 9 = "HTTP/1.1 ".toList) ∧ (reason = [] ∨ reason.head? = some ' ') then
    ((Text.ofDigits? 10 code).filter isStatus).map fun status => (older, status)
  else none

def isBlank (c : Char) : Bool := c = ' ' || c = '\t'

def trimmed (s : List Char) : List Char :=
  ((s.dropWhile isBlank).reverse.dropWhile isBlank).reverse

def isNamed (c : Char) : Bool := c.isAlphanum || "!#$%&'*+-.^_`|~".toList.contains c

/-- A name, for which capitals make no difference, and a value. -/
abbrev Field := List Char × List Char

def field? (line : List Char) : Option Field :=
  match line.takeWhile isNamed, line.dropWhile isNamed with
  | c :: name, ':' :: value => some ((c :: name).map Char.toLower, trimmed value)
  | _, _ => none

/-- Fields up to an empty line, no more than a given number, and what follows that line. -/
def fields? (most : Nat) (s : List Char) : Option (List Field × List Char) :=
  match line? s, most with
  | none, _ => none
  | some ([], rest), _ => some ([], rest)
  | some (_ :: _, _), 0 => none
  | some (c :: line, rest), most + 1 => do
    let field ← field? (c :: line)
    let (fields, rest) ← fields? most rest
    some (field :: fields, rest)

/-- The values of all fields of a name. -/
def values (name : String) (fields : List Field) : List (List Char) :=
  (fields.filter fun (n, _) => n = name.toList).map (·.2)

/-- Chunks are the last of the encodings that a value lists. -/
def isChunked (value : List Char) : Bool :=
  value.all (·.toNat < 0x80) &&
    (trimmed ((Text.pieces ',' value).getLastD [])).map Char.toLower = "chunked".toList

/-- The length is told in decimal, and always the same. -/
def length? (values : List (List Char)) : Option Nat :=
  let told := (values.flatMap (Text.pieces ',')).map trimmed
  match told.mapM fun digits => if digits = [] then none else Text.ofDigits? 10 digits with
  | some (n :: others) => if others.all (· = n) ∧ n < UInt64.size - 2 then some n else none
  | _ => none

/-- An encoding ranks above a length, but version 1.0 has none; without both the body ends last. -/
def extent? (older : Bool) (fields : List Field) : Option Extent :=
  match (values "transfer-encoding" fields).getLast?, values "content-length" fields with
  | some encoding, _ =>
    if older then none else some (if isChunked encoding then .chunks else .rest)
  | none, [] => some .rest
  | none, lengths => (length? lengths).map .bytes

/-- The size of a chunk, and what follows its line; a note may come after the size. -/
def chunkSize? (s : List Char) : Option (Nat × List Char) :=
  let isHex (c : Char) : Bool := (Text.digit? 16 c).isSome
  let isNote (c : Char) : Bool := c ≠ '\r' && c ≠ '\n'
  let tail := (s.dropWhile isHex).dropWhile isBlank
  let tail := if tail.head? = some ';' then tail.dropWhile isNote else tail
  match s.takeWhile isHex, tail with
  | c :: digits, '\r' :: '\n' :: rest => (Text.ofDigits? 16 (c :: digits)).map (·, rest)
  | _, _ => none

/-- How many lines there are up to an empty one, if a return and a line feed end them. -/
def lineCount? (isFresh : Bool) : List Char → Option Nat
  | '\r' :: '\n' :: s => if isFresh then some 0 else (lineCount? true s).map (· + 1)
  | '\r' :: _ => none
  | _ :: s => lineCount? false s
  | [] => none

/-- Fields may follow the last chunk. -/
def endsWell (s : List Char) : Bool :=
  ((lineCount? true s).bind fun count => fields? (min count 100) s).isSome

/-- Chunks up to an empty one. -/
def chunks? (s : List Char) : Option (List Char) :=
  match chunkSize? s with
  | none => none
  | some (0, rest) => if endsWell rest then some [] else none
  | some (size, rest) =>
    match rest.drop size with
    | '\r' :: '\n' :: next =>
      if next.length < s.length then (chunks? next).map (rest.take size ++ ·) else none
    | _ => none
termination_by s.length

def Extent.body? (s : List Char) : Extent → Option (List Char)
  | .chunks => chunks? s
  | .bytes count => if count ≤ s.length then some (s.take count) else none
  | .rest => some s

/-- The first message that is more than an announcement. -/
def read? (s : List Char) : Option Message := do
  let (opening, rest) ← line? (start s)
  let (older, status) ← opening? opening
  let (fields, rest) ← fields? 100 rest
  if announces status then
    if rest.length < s.length then read? rest else none
  else if lacksBody status then some { status, body := some [] }
  else
    let extent ← extent? older fields
    some { status, body := (Extent.body? rest extent).map (·.map byte) }
termination_by s.length

def ofBytes? (bytes : List UInt8) : Option Message := read? (bytes.map character)

end Message
end TokenSurvey.Service
