import TokenSurvey.Toml.Basic

/-! Dates and times. -/
namespace TokenSurvey.Toml

/-- A number of exactly so many digits between bounds. -/
def readField (width low high : Nat) (s : List Char) : Option (Nat × List Char) :=
  let ds := s.take width
  let n := ofDigits 10 ds
  if ds.length = width ∧ ds.all Char.isDigit ∧ low ≤ n ∧ n ≤ high then some (n, s.drop width) else none

def readMark (c : Char) : List Char → Option (List Char)
  | [] => none
  | d :: s => if d = c then some s else none

def isLeap (year : Nat) : Bool := year % 4 = 0 && (year % 100 ≠ 0 || year % 400 = 0)

def daysIn (year month : Nat) : Nat :=
  if month = 2 then if isLeap year then 29 else 28
  else if month = 4 ∨ month = 6 ∨ month = 9 ∨ month = 11 then 30
  else 31

/-- A day that its month has. -/
def skipDate (s : List Char) : Option (List Char) := do
  let (year, s) ← readField 4 0 9999 s
  let s ← readMark '-' s
  let (month, s) ← readField 2 1 12 s
  let s ← readMark '-' s
  let (_, s) ← readField 2 1 (daysIn year month) s
  pure s

/-- After a point there is at least one digit. -/
def skipFraction : List Char → Option (List Char)
  | '.' :: s => if (s.takeWhile Char.isDigit).isEmpty then none else some (s.dropWhile Char.isDigit)
  | s => some s

/-- A leap second is allowed. -/
def skipTime (s : List Char) : Option (List Char) := do
  let (_, s) ← readField 2 0 23 s
  let s ← readMark ':' s
  let (_, s) ← readField 2 0 59 s
  let s ← readMark ':' s
  let (_, s) ← readField 2 0 60 s
  skipFraction s

def skipOffset : List Char → Option (List Char)
  | [] => some []
  | c :: s =>
    if c = 'Z' || c = 'z' then some s
    else if c = '+' || c = '-' then do
      let (_, s) ← readField 2 0 23 s
      let s ← readMark ':' s
      let (_, s) ← readField 2 0 59 s
      pure s
    else some (c :: s)

/-- A time after a date follows a `T` or a blank, and may have an offset. -/
def skipTimeOfDate : List Char → Option (List Char)
  | c :: s =>
    if c = 'T' || c = 't' || c = ' ' then (skipTime s).bind skipOffset else none
  | [] => none

/-- A date, a date with a time, or a time. -/
def readMoment (s : List Char) : Option (Toml × List Char) := do
  let rest ← match skipDate s with
    | some rest => some ((skipTimeOfDate rest).getD rest)
    | none => skipTime s
  pure (.moment (String.ofList (s.take (s.length - rest.length))), rest)

end TokenSurvey.Toml
