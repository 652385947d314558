import TokenSurvey.Toml.Basic

/-! Integers and floats. -/
namespace TokenSurvey.Toml

/-- The digits of a number without their underscores; every underscore stands between digits. -/
def readRow (isDigit : Char → Bool) : List Char → Option (List Char × List Char)
  | [] => none
  | c :: s =>
    if !isDigit c then none
    else match s with
      | '_' :: s => (readRow isDigit s).map fun (ds, s) => (c :: ds, s)
      | s =>
        match readRow isDigit s with
        | some (ds, s) => some (c :: ds, s)
        | none => if (s.head?.map isDigit).getD false then none else some ([c], s)

/-- A sign, if there is one; `true` for a minus. -/
def readSign : List Char → Option Bool × List Char
  | '+' :: s => (some false, s)
  | '-' :: s => (some true, s)
  | s => (none, s)

/-- A decimal whole part; after a leading zero the number ends. -/
def readWhole : List Char → Option (List Char × List Char)
  | '0' :: s => some (['0'], s)
  | s => readRow Char.isDigit s

def minInteger : Int := -0x8000000000000000

def maxInteger : Int := 0x7fffffffffffffff

/-- Integers have 64 bits. -/
def integer? (n : Int) : Option Toml :=
  if minInteger ≤ n ∧ n ≤ maxInteger then some (.integer n) else none

def isOctal (c : Char) : Bool := '0' ≤ c && c ≤ '7'

def isBinary (c : Char) : Bool := c = '0' || c = '1'

def readBase (base : Nat) (isDigit : Char → Bool) (s : List Char) : Option (Toml × List Char) := do
  let (ds, s) ← readRow isDigit s
  pure (← integer? (ofDigits base ds), s)

/-- The quantities from here on round to infinity. -/
def overflowBound : Nat := Nat.pow 2 1024 - Nat.pow 2 970

/-- Whether `digits * 10 ^ power` rounds to a finite number. -/
def isFinite (digits : List Char) (power : Int) : Bool :=
  let n := ofDigits 10 digits
  let size : Int := (digits.dropWhile (· = '0')).length + power
  if n = 0 ∨ size ≤ 300 then true
  else if 320 < size then false
  else if 0 ≤ power then n * Nat.pow 10 power.toNat < overflowBound
  else n < overflowBound * Nat.pow 10 (-power).toNat

/-- The digits after a point; without a point there are none. -/
def readFraction : List Char → Option (List Char × List Char)
  | '.' :: s => readRow Char.isDigit s
  | s => some ([], s)

/-- The power of ten after an `e`; zeros may lead it. -/
def readPower : List Char → Option (Option Int × List Char)
  | [] => some (none, [])
  | c :: s =>
    if c = 'e' || c = 'E' then do
      let (sign, s) := readSign s
      let (ds, s) ← readRow Char.isDigit s
      let n : Int := ofDigits 10 ds
      pure (some (if sign = some true then -n else n), s)
    else some (none, c :: s)

/-- A decimal number: a float if it has a point or a power of ten. A float may not be too large,
though it may be too small. -/
def readDecimal (negative : Bool) (s : List Char) : Option (Toml × List Char) := do
  let (whole, rest) ← readWhole s
  let (fraction, rest) ← readFraction rest
  let (power, rest) ← readPower rest
  let literal := s.take (s.length - rest.length)
  if fraction = [] ∧ power = none then
    let n : Int := ofDigits 10 whole
    pure (← integer? (if negative then -n else n), rest)
  else if negative || isFinite (whole ++ fraction) (power.getD 0 - fraction.length) then
    pure (.float (String.ofList (if negative then '-' :: literal else literal)), rest)
  else none

def readSpecial : List Char → Option (Toml × List Char)
  | 'i' :: 'n' :: 'f' :: s => some (.float "inf", s)
  | 'n' :: 'a' :: 'n' :: s => some (.float "nan", s)
  | _ => none

/-- Only decimal numbers and the special floats have a sign. -/
def readNumber (s : List Char) : Option (Toml × List Char) :=
  match s with
  | '0' :: 'x' :: s => readBase 16 isHexDigit s
  | '0' :: 'o' :: s => readBase 8 isOctal s
  | '0' :: 'b' :: s => readBase 2 isBinary s
  | s =>
    let (sign, s) := readSign s
    match readSpecial s with
    | some found => some found
    | none => readDecimal (sign = some true) s

end TokenSurvey.Toml
