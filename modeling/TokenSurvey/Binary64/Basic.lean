import TokenSurvey.Rounding

/-! Binary floating-point numbers of 64 bits, with exact values and one rounding. -/
namespace TokenSurvey

/-- A number of the format, by its bits: sign, eleven exponent bits, 52 fraction bits. -/
structure Binary64 where
  bits : UInt64
  deriving DecidableEq

namespace Binary64

/-- How many places there are to an octave: `2 ^ 52`. -/
def octaveSize : Nat := 0x10000000000000

/-- The weight of the sign bit: `2 ^ 63`. -/
def signBit : Nat := 0x8000000000000000

/-- The place of infinity among the magnitudes in ascending order; what stands above is no number. -/
def infiniteRank : Nat := 2047 * octaveSize

def negative (x : Binary64) : Bool := signBit ≤ x.bits.toNat

/-- The place of the magnitude in ascending order. -/
def rank (x : Binary64) : Nat := x.bits.toNat % signBit

def ofRank (negative : Bool) (rank : Nat) : Binary64 :=
  ⟨UInt64.ofNat (rank + if negative then signBit else 0)⟩

/-- The magnitude at a place: in the first two octaves the steps are the smallest, and every further
octave doubles the step. -/
def magnitude (rank : Nat) : Rat :=
  let octave : Nat := rank / octaveSize
  let fraction : Nat := rank % octaveSize
  if octave = 0 then (fraction : Rat) * (2 : Rat) ^ (-1074 : Int)
  else ((octaveSize + fraction : Nat) : Rat) * (2 : Rat) ^ ((octave : Int) - 1075)

/-- What an operand stands for. -/
inductive View where
  | nan
  | infinite (negative : Bool)
  | finite (value : Rat)

def view (x : Binary64) : View :=
  if infiniteRank < x.rank then .nan
  else if x.rank = infiniteRank then .infinite x.negative
  else .finite (if x.negative then -magnitude x.rank else magnitude x.rank)

def isNaN (x : Binary64) : Bool := infiniteRank < x.rank

def isFinite (x : Binary64) : Bool := x.rank < infiniteRank

def nan : Binary64 := ⟨0x7ff8000000000000⟩

def infinity (negative : Bool) : Binary64 := ofRank negative infiniteRank

def zero (negative : Bool) : Binary64 := ofRank negative 0

/-- The step between neighbours next to a quantity with this binary exponent, as a power of two. -/
def stepExponent (e : Int) : Int := max (e - 52) (-1074)

/-- The place of a magnitude of `steps` steps of size `2 ^ step`; beyond the largest stands infinity. -/
def rankOfSteps (steps : Int) (step : Int) : Nat :=
  min infiniteRank ((step + 1074) * octaveSize + steps).toNat

/-- The place nearest to a positive quantity, ties to the even place. -/
def nearestRank (q : Rat) : Nat :=
  let step := stepExponent (Rounding.binaryExponent q)
  rankOfSteps (Rounding.nearest (q / (2 : Rat) ^ step)) step

/-- The place nearest to the square root of a positive quantity, ties to the even place. -/
def nearestRootRank (q : Rat) : Nat :=
  let step := stepExponent ((Rounding.binaryExponent q).fdiv 2)
  rankOfSteps (Rounding.nearestRoot (q / ((2 : Rat) ^ step * (2 : Rat) ^ step))) step

/-- The nearest number; an exact zero has the given sign. -/
def round (zeroNegative : Bool) (q : Rat) : Binary64 :=
  if q = 0 then zero zeroNegative
  else if q < 0 then ofRank true (nearestRank (-q))
  else ofRank false (nearestRank q)

def ofRat (q : Rat) : Binary64 := round false q

def ofNat (n : Nat) : Binary64 := ofRat n

end Binary64
end TokenSurvey
