import TokenSurvey.Binary64.Basic

/-! Operations: the exact result, rounded once. -/
namespace TokenSurvey.Binary64

def neg (x : Binary64) : Binary64 := ofRank (!x.negative) x.rank

/-- An exact zero sum is negative only if both terms are. -/
def add (x y : Binary64) : Binary64 :=
  match x.view, y.view with
  | .finite a, .finite b => round (x.negative && y.negative) (a + b)
  | .infinite s, .infinite t => if s = t then infinity s else nan
  | .infinite s, .finite _ => infinity s
  | .finite _, .infinite t => infinity t
  | _, _ => nan

def sub (x y : Binary64) : Binary64 := add x (neg y)

def mul (x y : Binary64) : Binary64 :=
  let negative := x.negative != y.negative
  match x.view, y.view with
  | .finite a, .finite b => round negative (a * b)
  | .infinite _, .infinite _ => infinity negative
  | .infinite _, .finite a | .finite a, .infinite _ => if a = 0 then nan else infinity negative
  | _, _ => nan

def div (x y : Binary64) : Binary64 :=
  let negative := x.negative != y.negative
  match x.view, y.view with
  | .finite a, .finite b =>
    if b = 0 then if a = 0 then nan else infinity negative
    else round negative (a / b)
  | .infinite _, .finite _ => infinity negative
  | .finite _, .infinite _ => zero negative
  | _, _ => nan

def sqrt (x : Binary64) : Binary64 :=
  match x.view with
  | .finite a =>
    if a = 0 then x
    else if a < 0 then nan
    else ofRank false (nearestRootRank a)
  | .infinite false => x
  | _ => nan

instance : Add Binary64 := ⟨add⟩
instance : Sub Binary64 := ⟨sub⟩
instance : Mul Binary64 := ⟨mul⟩
instance : Div Binary64 := ⟨div⟩

/-- The least natural number at or above a finite number, zero for a negative one. -/
def ceil (x : Binary64) : Nat :=
  match x.view with
  | .finite a => a.ceil.toNat
  | .infinite false => UInt64.size - 1
  | _ => 0

def sum (xs : List Binary64) : Binary64 := xs.foldl (· + ·) (zero false)

end TokenSurvey.Binary64
