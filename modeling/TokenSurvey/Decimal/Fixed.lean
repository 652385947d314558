import TokenSurvey.Binary64.Basic

/-! Numbers with a fixed count of decimal places. -/
namespace TokenSurvey.Decimal

def padLeft (width : Nat) (s : List Char) : List Char := List.replicate (width - s.length) '0' ++ s

/-- The last place is rounded from the exact value, ties to even. -/
def fixedMagnitude (places : Nat) (q : Rat) : List Char :=
  let unit := Nat.pow 10 places
  let units := (Rounding.nearest (q * unit)).toNat
  let whole := Nat.toDigits 10 (units / unit)
  if places = 0 then whole
  else whole ++ '.' :: padLeft places (Nat.toDigits 10 (units % unit))

/-- A negative number keeps its sign even when it rounds to zero. -/
def fixed (places : Nat) (x : Binary64) : String :=
  match x.view with
  | .nan => "NaN"
  | .infinite negative => if negative then "-inf" else "inf"
  | .finite _ =>
    String.ofList ((if x.negative then ['-'] else []) ++
      fixedMagnitude places (Binary64.magnitude x.rank))

end TokenSurvey.Decimal
