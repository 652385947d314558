import TokenSurvey.Decimal.Shortest
import TokenSurvey.Json.Basic

/-! Floating-point numbers in JSON: the fewest digits that read back. -/
namespace TokenSurvey.Json

/-- Leading exponents from `lowest` to `highest` are written without a power of ten. -/
structure Plain where
  lowest : Int
  highest : Int

/-- From a hundred-thousandth up to 16 digits before the point. -/
def plain : Plain := ⟨-5, 15⟩

def digitValues (n : Nat) : List (Fin 10) :=
  if _h : n < 10 then [⟨n, _h⟩]
  else digitValues (n / 10) ++ [⟨n % 10, Nat.mod_lt n (by decide)⟩]
termination_by n

/-- At least one digit stands after the point unless a power of ten is written. -/
def numberOfScaled (negative : Bool) (s : Decimal.Scaled) : Number :=
  let digits := digitValues s.digits
  let lead : Int := digits.length - 1 + s.power
  if plain.lowest ≤ lead ∧ lead ≤ plain.highest then
    if 0 ≤ s.power then { negative, whole := s.digits * Nat.pow 10 s.power.toNat, fraction := [0] }
    else
      let places := (-s.power).toNat
      let padded := List.replicate (places - digits.length) 0 ++ digits
      { negative
        whole := s.digits / Nat.pow 10 places
        fraction := padded.drop (padded.length - places) }
  else
    { negative
      whole := (digits.headD 0).val
      fraction := digits.tail
      exponent := some lead }

/-- What is not finite has no number. -/
def ofBinary64 (x : Binary64) : Json :=
  match x.view with
  | .nan | .infinite _ => null
  | .finite q =>
    if q = 0 then number { negative := x.negative, whole := 0, fraction := [0] }
    else number (numberOfScaled x.negative (Decimal.Basin.ofRank x.rank).shortest)

end TokenSurvey.Json
