import TokenSurvey.Binary64.Arithmetic
import TokenSurvey.Fault

/-! The distribution of the token counts of one sample. -/
namespace TokenSurvey

structure Statistics where
  trials : Nat
  mean : Binary64
  p50 : Binary64
  p95 : Binary64
  stdev : Binary64
  perThousand : Binary64
  deriving DecidableEq

namespace Statistics

/-- The place of the middle count among `n` sorted ones, the upper one for an even number. -/
def medianIndex (n : Nat) : Nat := n / 2

/-- Nineteen twentieths, as near as the format comes. -/
def nineteenTwentieths : Binary64 := Binary64.ofRat (19 / 20)

/-- The place of the count that 95 in 100 do not exceed. -/
def p95Index (n : Nat) : Nat :=
  min ((nineteenTwentieths * Binary64.ofNat n).ceil - 1) (n - 1)

def meanOf (sorted : List Nat) : Binary64 :=
  Binary64.sum (sorted.map Binary64.ofNat) / Binary64.ofNat sorted.length

def squaredDeviation (mean : Binary64) (count : Nat) : Binary64 :=
  let d := Binary64.ofNat count - mean
  d * d

/-- Population standard deviation; a single count has none. -/
def stdevOf (sorted : List Nat) (mean : Binary64) : Binary64 :=
  if 1 < sorted.length then
    (Binary64.sum (sorted.map (squaredDeviation mean)) / Binary64.ofNat sorted.length).sqrt
  else Binary64.zero false

def rateOf (mean : Binary64) (characters : Nat) : Binary64 :=
  mean / (Binary64.ofNat characters / Binary64.ofNat 1000)

/-- Statistics of counts in ascending order. -/
def ofSorted (sorted : List Nat) (characters : Nat) : Statistics :=
  let m := meanOf sorted
  { trials := sorted.length
    mean := m
    p50 := Binary64.ofNat (sorted.getD (medianIndex sorted.length) 0)
    p95 := Binary64.ofNat (sorted.getD (p95Index sorted.length) 0)
    stdev := stdevOf sorted m
    perThousand := rateOf m characters }

/-- Summarizes counts measured on texts of `characters` characters. -/
def summarize (counts : List Nat) (characters : Nat) : Except Fault Statistics :=
  if counts = [] then .error .emptySample
  else if characters = 0 then .error (.invalidParameter "char_count must be positive")
  else .ok (ofSorted counts.mergeSort characters)

end Statistics
end TokenSurvey
