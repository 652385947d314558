import TokenSurvey.Decimal.Fixed

/-! Points in time as RFC 3339 text in UTC. -/
namespace TokenSurvey.Report

/-- Seconds since 1970 and nanoseconds within the second; from a thousand million on they lie in the
leap second after it. -/
structure Timestamp where
  seconds : Int
  nanos : Nat

/-- A day of the proleptic Gregorian calendar. -/
structure Date where
  year : Int
  month : Nat
  day : Nat

/-- Counts days from the first of March of the year 0 in eras of 400 years, so that a leap day ends
its year. -/
def Date.ofDay (daysSince1970 : Int) : Date :=
  let days := daysSince1970 + 719468
  let era := days.fdiv 146097
  let ofEra := (days.fmod 146097).toNat
  let year := (ofEra - ofEra / 1460 + ofEra / 36524 - ofEra / 146096) / 365
  let ofYear := ofEra - (365 * year + year / 4 - year / 100)
  let shifted := (5 * ofYear + 2) / 153
  let month := if shifted < 10 then shifted + 3 else shifted - 9
  { year := era * 400 + year + (if month ≤ 2 then 1 else 0)
    month
    day := ofYear - (153 * shifted + 2) / 5 + 1 }

def padded (width n : Nat) : List Char := Decimal.padLeft width (Nat.toDigits 10 n)

/-- A year outside 0 to 9999 has a sign. -/
def yearText (year : Int) : List Char :=
  if year < 0 then '-' :: padded 4 year.natAbs
  else if 9999 < year then '+' :: padded 4 year.natAbs
  else padded 4 year.natAbs

/-- No digits, or three, six or nine, the fewest that are exact. -/
def fractionText (nanos : Nat) : List Char :=
  if nanos = 0 then []
  else if nanos % 1000000 = 0 then '.' :: padded 3 (nanos / 1000000)
  else if nanos % 1000 = 0 then '.' :: padded 6 (nanos / 1000)
  else '.' :: padded 9 nanos

def nanosPerSecond : Nat := 1000000000

/-- A leap second is the sixtieth of its minute. -/
def Timestamp.text (t : Timestamp) : String :=
  let date := Date.ofDay (t.seconds.fdiv 86400)
  let second := (t.seconds.fmod 86400).toNat
  String.ofList (yearText date.year ++ '-' :: padded 2 date.month ++ '-' :: padded 2 date.day ++
    'T' :: padded 2 (second / 3600) ++ ':' :: padded 2 (second / 60 % 60) ++
    ':' :: padded 2 (second % 60 + t.nanos / nanosPerSecond) ++
    fractionText (t.nanos % nanosPerSecond) ++ ['Z'])

end TokenSurvey.Report
