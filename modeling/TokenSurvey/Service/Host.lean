import TokenSurvey.Text.Pieces
import TokenSurvey.Text.Radix
import TokenSurvey.Text.Utf8
import TokenSurvey.Unicode.Plain

/-! Hosts: names, and numbers of 32 or of 128 bits. -/
namespace TokenSurvey.Service

/-- A short number is read from four bytes, a long one from eight groups of 16 bits. -/
inductive Host where
  | name (text : List Char)
  | short (number : Nat)
  | long (groups : List Nat)
  deriving DecidableEq

namespace Host

open Text (ofDigits?)

/-- A zero in front calls for octal digits, and `0x` for hexadecimal ones, if any. -/
def number? : List Char → Option Nat
  | [] => none
  | '0' :: 'x' :: s | '0' :: 'X' :: s => ofDigits? 16 s
  | '0' :: s => ofDigits? 8 s
  | s => ofDigits? 10 s

/-- The numbers from the highest byte on; the last one fills the bytes that are left. -/
def joined? (numbers : List Nat) : Option Nat :=
  let bytes := numbers.dropLast
  let last := numbers.getLastD 0
  if numbers.length ≤ 4 ∧ bytes.all (· < 256) ∧ last < 1 <<< (8 * (4 - bytes.length)) then
    some ((List.zipWith (· <<< ·) bytes [24, 16, 8]).foldl (· + ·) last)
  else none

def short? (parts : List (List Char)) : Option Host :=
  ((parts.mapM number?).bind joined?).map .short

/-- Four decimal numbers, of a byte each and without zeros in front. -/
def strictShort? (s : List Char) : Option Nat :=
  let parts := Text.pieces '.' s
  let isPlain (part : List Char) : Bool := part = ['0'] || (part ≠ [] && part.head? ≠ some '0')
  if parts.length = 4 ∧ parts.all isPlain then
    ((parts.mapM (ofDigits? 10)).filter fun numbers => numbers.all (· < 256)).bind joined?
  else none

def group? (s : List Char) : Option Nat := if s = [] ∨ 4 < s.length then none else ofDigits? 16 s

/-- Groups between colons; a short number may stand for the last two. -/
def groups? (s : List Char) : Option (List Nat) :=
  if s = [] then some []
  else
    let parts := Text.pieces ':' s
    match strictShort? (parts.getLastD []) with
    | some number => (parts.dropLast.mapM group?).map (· ++ [number / 65536, number % 65536])
    | none => parts.mapM group?

/-- The texts in front of a pair of colons and after it. -/
def atGap? : List Char → Option (List Char × List Char)
  | ':' :: ':' :: s => some ([], s)
  | c :: s => (atGap? s).map fun (front, back) => (c :: front, back)
  | [] => none

/-- A gap stands for groups of zero, one at least; a short number only comes last. -/
def long? (s : List Char) : Option Host :=
  match atGap? s with
  | none => ((groups? s).filter (·.length = 8)).map .long
  | some (front, back) =>
    match groups? front, groups? back with
    | some high, some low =>
      if high.length + low.length < 8 ∧ '.' ∉ front then
        some (.long (high ++ List.replicate (8 - high.length - low.length) 0 ++ low))
      else none
    | _, _ => none

/-- A percent sign with two digits is the byte of that number. -/
def bytes : List Char → List UInt8
  | '%' :: a :: b :: s =>
    match ofDigits? 16 [a, b] with
    | some n => UInt8.ofNat n :: bytes s
    | none => String.utf8EncodeChar '%' ++ bytes (a :: b :: s)
  | c :: s => String.utf8EncodeChar c ++ bytes s
  | [] => []

/-- What may stand in the name of a host that is asked. -/
def mayBeNamed (c : Char) : Bool := c.isAlphanum || "-._~!$&'()*+,;=".toList.contains c

/-- How a name of other characters, or one in code, is written in plain ones, if it is one. -/
abbrev Spelling := List Char → Option (List Char)

/-- A part of a name that stands for other characters. -/
def isCoded (part : List Char) : Bool := "xn--".toList.isPrefixOf part

def name? (spell? : Spelling) (s : List Char) : Option (List Char) :=
  ((Text.decode (bytes s)).mapM id).bind fun characters =>
    let plain := (characters.mapM Unicode.plain?).map List.flatten
    let inClear := plain.filter fun name => !(Text.pieces '.' name).any isCoded
    (inClear.or (spell? characters)).filter fun name => name ≠ [] && name.all mayBeNamed

/-- A full stop at the end does not count. -/
def partsOf (name : List Char) : List (List Char) :=
  let parts := Text.pieces '.' name
  if parts.getLast? = some [] then parts.dropLast else parts

def isNumeric (part : List Char) : Bool :=
  (part ≠ [] && part.all Char.isDigit) || (number? part).isSome

def bracketed? : List Char → Option (List Char)
  | '[' :: s => if s.getLast? = some ']' then some s.dropLast else none
  | _ => none

/-- A host as an address writes it; a name that ends in a number is one. -/
def ofText? (spell? : Spelling) (s : List Char) : Option Host :=
  if s.head? = some '[' then (bracketed? s).bind long?
  else (name? spell? s).bind fun name =>
    let parts := partsOf name
    if isNumeric (parts.getLastD []) then short? parts else some (.name name)

/-- A host as a plain setting writes it: a number or, failing that, a name. -/
def ofSetting (s : List Char) : Host :=
  (((bracketed? s).bind long?).or (short? (Text.pieces '.' s))).getD (.name (s.map Char.toLower))

def hexadecimal (groups : List Nat) : List Char :=
  [':'].intercalate (groups.map fun group => Nat.toDigits 16 group)

def zeros (groups : List Nat) : Nat := (groups.takeWhile (· = 0)).length

/-- The first of the longest runs of zeros is left out, unless it is a single one. -/
def longText (groups : List Nat) : List Char :=
  let runs := (List.range groups.length).map fun i => zeros (groups.drop i)
  let longest := runs.foldl max 0
  if longest < 2 then hexadecimal groups
  else
    let start := runs.idxOf longest
    hexadecimal (groups.take start) ++ "::".toList ++ hexadecimal (groups.drop (start + longest))

def text : Host → List Char
  | name s => s
  | short n =>
    ['.'].intercalate ([24, 16, 8, 0].map fun shift => Nat.toDigits 10 (n >>> shift % 256))
  | long groups => '[' :: longText groups ++ [']']

/-- How many bits a number has, and the number. -/
def bits? : Host → Option (Nat × Nat)
  | name _ => none
  | short n => some (32, n)
  | long groups => some (128, groups.foldl (fun n group => n * 65536 + group) 0)

end Host
end TokenSurvey.Service
