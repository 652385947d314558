/-! Rounding of exact quantities to whole numbers. -/
namespace TokenSurvey.Rounding

/-- Of a whole number and its successor, the nearer to a quantity between them; `place` compares the
quantity with their midpoint, and a tie goes to the even one. -/
def settle (floor : Int) (place : Ordering) : Int :=
  match place with
  | .lt => floor
  | .gt => floor + 1
  | .eq => if floor % 2 = 0 then floor else floor + 1

def compare (p q : Rat) : Ordering := if p < q then .lt else if q < p then .gt else .eq

/-- The nearest whole number, ties to even. -/
def nearest (q : Rat) : Int := settle q.floor (compare (q - q.floor) (1 / 2))

/-- The greatest number whose square is at most `n`. -/
def floorRoot (n : Nat) : Nat :=
  if n = 0 then 0
  else
    let r := 2 * floorRoot (n / 4)
    if (r + 1) * (r + 1) ≤ n then r + 1 else r
termination_by n

/-- The nearest whole number to a square root, ties to even. -/
def nearestRoot (q : Rat) : Int :=
  let r : Int := floorRoot q.floor.toNat
  settle r (compare q ((r + 1 / 2 : Rat) * (r + 1 / 2)))

/-- The exponent of the greatest power of two that is at most a positive quantity. -/
def binaryExponent (q : Rat) : Int :=
  let e : Int := (q.num.natAbs.log2 : Int) - q.den.log2
  if (2 : Rat) ^ e ≤ q then e else e - 1

def digitCount (n : Nat) : Nat := (Nat.toDigits 10 n).length

/-- The exponent of the greatest power of ten that is at most a positive quantity. -/
def decimalExponent (q : Rat) : Int :=
  let e : Int := (digitCount q.num.natAbs : Int) - digitCount q.den
  if (10 : Rat) ^ e ≤ q then e else e - 1

end TokenSurvey.Rounding
