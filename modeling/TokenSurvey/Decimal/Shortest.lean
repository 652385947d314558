import TokenSurvey.Binary64.Basic

/-! The fewest decimal digits that read back as the same number. -/
namespace TokenSurvey.Decimal

/-- The quantity `digits * 10 ^ power`. -/
structure Scaled where
  digits : Nat
  power : Int
  deriving DecidableEq

def Scaled.value (s : Scaled) : Rat := s.digits * (10 : Rat) ^ s.power

/-- Zeros at the end of the digits go into the power. -/
def Scaled.stripped (s : Scaled) : Scaled :=
  if h : s.digits ≠ 0 ∧ s.digits % 10 = 0 then
    Scaled.stripped ⟨s.digits / 10, s.power + 1⟩
  else s
termination_by s.digits
decreasing_by
  have : s.digits / 10 < s.digits := Nat.div_lt_self (Nat.pos_of_ne_zero h.1) (by decide)
  exact this

/-- The quantities that round to one number: from `low` to `high`, both included if `closed`. -/
structure Basin where
  low : Rat
  value : Rat
  high : Rat
  closed : Bool

def Basin.holds (b : Basin) (q : Rat) : Bool :=
  if b.closed then b.low ≤ q && q ≤ b.high else b.low < q && q < b.high

/-- The basin of the number at a place above zero reaches half way to its neighbours. -/
def Basin.ofRank (rank : Nat) : Basin :=
  let value := Binary64.magnitude rank
  { low := (Binary64.magnitude (rank - 1) + value) / 2
    value
    high := (value + Binary64.magnitude (rank + 1)) / 2
    closed := rank % 2 = 0 }

/-- The multiple of a power of ten in the basin that is nearest to its value; of two as near, the
even one. -/
def Basin.nearest? (b : Basin) (power : Int) : Option Scaled :=
  let unit := (10 : Rat) ^ power
  let below := (b.value / unit).floor
  let nearest := Rounding.nearest (b.value / unit)
  let other := if nearest = below then below + 1 else below
  if b.holds (nearest * unit) then some ⟨nearest.toNat, power⟩
  else if b.holds (other * unit) then some ⟨other.toNat, power⟩
  else none

/-- Tries one digit more at a time; seventeen always suffice. -/
def Basin.shortestFrom (b : Basin) (power : Int) : Nat → Scaled
  | 0 => ⟨(Rounding.nearest (b.value / (10 : Rat) ^ power)).toNat, power⟩
  | more + 1 =>
    match b.nearest? power with
    | some s => s
    | none => b.shortestFrom (power - 1) more

def Basin.shortest (b : Basin) : Scaled :=
  (b.shortestFrom (Rounding.decimalExponent b.value) 16).stripped

end TokenSurvey.Decimal
