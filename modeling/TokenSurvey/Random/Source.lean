/-! Fair draws from an endless tape of 64-bit outputs. -/
namespace TokenSurvey.Random

/-- The outputs of a generator, by position. -/
abbrev Tape := Nat → UInt64

/-- A reading position on a tape; `patience` bounds the refusals within one draw. -/
structure Source where
  tape : Tape
  patience : Nat
  position : Nat := 0

/-- The tape that says a list of outputs over and over. -/
def Tape.cycle (outputs : List UInt64) : Tape :=
  let held := outputs.toArray
  fun i => held[i % held.size]?.getD 0

/-- Low halves below this bound are accepted: the greatest `n * 2 ^ k` that a word holds. -/
def acceptedBelow (n : Nat) : Nat := n <<< (63 - n.log2)

/-- An output is accepted if the low half of its product with `n` lies below the bound. -/
def accepts (n : Nat) (v : UInt64) : Bool := v.toNat * n % UInt64.size < acceptedBelow n

/-- The high half of the product, one of `n` equal shares of the words. -/
def share (n : Nat) (h : 0 < n) (v : UInt64) : Fin n :=
  ⟨v.toNat * n / UInt64.size, Nat.div_lt_of_lt_mul (Nat.mul_lt_mul_of_pos_right v.toNat_lt h)⟩

/-- Reads on to the first accepted output; the one after the last permitted refusal is taken as it
is, so that a draw ends on every tape. -/
def drawFrom (n : Nat) (h : 0 < n) (tape : Tape) : Nat → Nat → Fin n × Nat
  | 0, position => (share n h (tape position), position + 1)
  | patience + 1, position =>
    if accepts n (tape position) then (share n h (tape position), position + 1)
    else drawFrom n h tape patience (position + 1)

def Source.draw (n : Nat) (h : 0 < n) (s : Source) : Fin n × Source :=
  let (i, position) := drawFrom n h s.tape s.patience s.position
  (i, { s with position })

end TokenSurvey.Random
