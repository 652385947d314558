/-! Reading bytes as UTF-8, with a gap where they are not. -/
namespace TokenSurvey.Text

/-- Characters, and `none` for each stretch of bytes that is not one. -/
abbrev Gapped := List (Option Char)

/-- A character begun: its bits so far, how many bytes it lacks, and the bounds of the next one. -/
structure Pending where
  code : Nat
  missing : Nat
  low : Nat := 0x80
  high : Nat := 0xBF

/-- The bounds after the first byte leave out overlong forms, surrogates and codes too large. -/
def Pending.ofByte? (b : Nat) : Option Pending :=
  if 0xC2 ≤ b ∧ b ≤ 0xDF then some { code := b - 0xC0, missing := 1 }
  else if b = 0xE0 then some { code := 0, missing := 2, low := 0xA0 }
  else if b = 0xED then some { code := 0xD, missing := 2, high := 0x9F }
  else if 0xE1 ≤ b ∧ b ≤ 0xEF then some { code := b - 0xE0, missing := 2 }
  else if b = 0xF0 then some { code := 0, missing := 3, low := 0x90 }
  else if 0xF1 ≤ b ∧ b ≤ 0xF3 then some { code := b - 0xF0, missing := 3 }
  else if b = 0xF4 then some { code := 4, missing := 3, high := 0x8F }
  else none

/-- A byte between characters. -/
def openByte (b : Nat) : Gapped × Option Pending :=
  if b < 0x80 then ([some (Char.ofNat b)], none)
  else match Pending.ofByte? b with
    | some p => ([], some p)
    | none => ([none], none)

/-- A byte that does not continue a character leaves a gap and is read anew. -/
def nextByte (state : Option Pending) (b : Nat) : Gapped × Option Pending :=
  match state with
  | none => openByte b
  | some p =>
    if p.low ≤ b ∧ b ≤ p.high then
      let code := p.code * 64 + (b - 0x80)
      if p.missing = 1 then ([some (Char.ofNat code)], none)
      else ([], some { code, missing := p.missing - 1 })
    else
      let (read, state) := openByte b
      (none :: read, state)

def decodeFrom : Option Pending → List UInt8 → Gapped
  | none, [] => []
  | some _, [] => [none]
  | state, b :: bs =>
    let (read, state) := nextByte state b.toNat
    read ++ decodeFrom state bs

def decode (bytes : List UInt8) : Gapped := decodeFrom none bytes

/-- The text, if there is no gap. -/
def strict? (s : Gapped) : Option String := (s.mapM id).map String.ofList

/-- The text with a replacement character in each gap. -/
def lossy (s : Gapped) : String := String.ofList (s.map (·.getD '\uFFFD'))

def ofString (s : String) : Gapped := s.toList.map some

end TokenSurvey.Text
