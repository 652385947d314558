import TokenSurvey.Json.Basic

/-! The lexemes of a JSON text. -/
namespace TokenSurvey.Json

open Text (Gapped)

inductive Lexeme where
  | openArray
  | closeArray
  | openObject
  | closeObject
  | comma
  | colon
  | null
  | bool (value : Bool)
  | number (value : Number)
  | text (value : Gapped)

namespace Lexeme

def isBlank (c : Option Char) : Bool :=
  c = some ' ' || c = some '\t' || c = some '\n' || c = some '\r'

/-- The value of a hexadecimal digit in either case. -/
def hexDigit? : Option Char → Option Nat
  | none => none
  | some c =>
    if c.isDigit then some (c.toNat - 48)
    else if 'a' ≤ c ∧ c ≤ 'f' then some (c.toNat - 87)
    else if 'A' ≤ c ∧ c ≤ 'F' then some (c.toNat - 55)
    else none

/-- A piece of a string: a character as it stands, or a 16-bit unit from an escape. -/
inductive Piece where
  | char (c : Option Char)
  | unit (code : Nat)

def isHigh (code : Nat) : Bool := 0xD800 ≤ code && code < 0xDC00

def isLow (code : Nat) : Bool := 0xDC00 ≤ code && code < 0xE000

/-- A surrogate alone names no character. -/
def ofUnit (code : Nat) : Option Char :=
  if isHigh code || isLow code then none else some (Char.ofNat code)

/-- A high unit and the low unit after it make one character. -/
def joinUnits : List Piece → Gapped
  | [] => []
  | .char c :: ps => c :: joinUnits ps
  | .unit high :: .unit low :: ps =>
    if isHigh high && isLow low then
      some (Char.ofNat ((high - 0xD800) * 0x400 + (low - 0xDC00) + 0x10000)) :: joinUnits ps
    else ofUnit high :: joinUnits (.unit low :: ps)
  | .unit code :: ps => ofUnit code :: joinUnits ps

def simpleEscape? : Option Char → Option Char
  | some '"' => some '"'
  | some '\\' => some '\\'
  | some '/' => some '/'
  | some 'b' => some '\x08'
  | some 'f' => some '\x0c'
  | some 'n' => some '\n'
  | some 'r' => some '\r'
  | some 't' => some '\t'
  | _ => none

def unit? (a b c d : Option Char) : Option Nat := do
  pure ((← hexDigit? a) * 0x1000 + (← hexDigit? b) * 0x100 + (← hexDigit? c) * 0x10 + (← hexDigit? d))

/-- Puts a piece, if it is one, before those read after it. -/
def putPiece (p : Option Piece) (rest : Option (List Piece × Gapped)) :
    Option (List Piece × Gapped) :=
  match p, rest with
  | some p, some (ps, s) => some (p :: ps, s)
  | _, _ => none

/-- The pieces up to the closing quote, and what follows it; controls must be escaped. -/
def readPieces : Gapped → Option (List Piece × Gapped)
  | [] => none
  | some '"' :: s => some ([], s)
  | some '\\' :: some 'u' :: a :: b :: c :: d :: s =>
    putPiece ((unit? a b c d).map .unit) (readPieces s)
  | some '\\' :: c :: s => putPiece ((simpleEscape? c).map fun c => .char (some c)) (readPieces s)
  | c :: s =>
    putPiece (if c.elim false (·.toNat < 0x20) then none else some (.char c)) (readPieces s)

def digit? : Option Char → Option (Fin 10)
  | none => none
  | some c => if h : 48 ≤ c.toNat ∧ c.toNat - 48 < 10 then some ⟨c.toNat - 48, h.2⟩ else none

/-- The longest row of digits, and what follows it. -/
def readDigits : Gapped → List (Fin 10) × Gapped
  | [] => ([], [])
  | c :: s =>
    match digit? c with
    | some d => (d :: (readDigits s).1, (readDigits s).2)
    | none => ([], c :: s)

def ofDigits (ds : List (Fin 10)) : Nat := ds.foldl (fun n d => n * 10 + d.val) 0

/-- A whole part has a digit, and no zero before its other digits. -/
def whole? : List (Fin 10) → Option Nat
  | [] => none
  | [d] => some d.val
  | d :: ds => if d.val = 0 then none else some (ofDigits (d :: ds))

/-- After a point there is at least one digit. -/
def readFraction : Gapped → Option (List (Fin 10) × Gapped)
  | some '.' :: s => if (readDigits s).1 = [] then none else some (readDigits s)
  | s => some ([], s)

/-- Digits to the end of the text, at least one. -/
def power? (s : Gapped) : Option Nat :=
  match readDigits s with
  | (d :: ds, []) => some (ofDigits (d :: ds))
  | _ => none

/-- An exponent ends a number. -/
def exponent? : Gapped → Option (Option Int)
  | [] => some none
  | some 'e' :: s | some 'E' :: s =>
    match s with
    | some '-' :: s => (power? s).map fun n => some (-(n : Int))
    | some '+' :: s | s => (power? s).map fun n => some (n : Int)
  | _ => none

def unsigned? (negative : Bool) (s : Gapped) : Option Number := do
  let whole ← whole? (readDigits s).1
  let (fraction, rest) ← readFraction (readDigits s).2
  let exponent ← exponent? rest
  pure { negative, whole, fraction, exponent }

def number? : Gapped → Option Number
  | some '-' :: s => unsigned? true s
  | s => unsigned? false s

/-- The characters that numbers are made of. -/
def isNumeral (c : Option Char) : Bool :=
  (digit? c).isSome || c = some '-' || c = some '+' || c = some '.' || c = some 'e' || c = some 'E'

/-- The lexeme at the start of a text that begins with no blank. -/
def read : Gapped → Option (Lexeme × Gapped)
  | some '[' :: s => some (openArray, s)
  | some ']' :: s => some (closeArray, s)
  | some '\x7b' :: s => some (openObject, s)
  | some '\x7d' :: s => some (closeObject, s)
  | some ',' :: s => some (comma, s)
  | some ':' :: s => some (colon, s)
  | some 'n' :: some 'u' :: some 'l' :: some 'l' :: s => some (null, s)
  | some 't' :: some 'r' :: some 'u' :: some 'e' :: s => some (bool true, s)
  | some 'f' :: some 'a' :: some 'l' :: some 's' :: some 'e' :: s => some (bool false, s)
  | some '"' :: s => (readPieces s).map fun (ps, s) => (text (joinUnits ps), s)
  | c :: s =>
    if isNumeral c then
      (number? (c :: s.takeWhile isNumeral)).map fun n => (number n, s.dropWhile isNumeral)
    else none
  | [] => none

theorem putPiece_eq_some {p : Option Piece} {rest : Option (List Piece × Gapped)}
    {ps : List Piece} {r : Gapped} (h : putPiece p rest = some (ps, r)) :
    ∃ qs, rest = some (qs, r) := by
  unfold putPiece at h
  split at h
  · next qs s =>
    obtain ⟨-, rfl⟩ : _ ∧ s = r := by simpa using h
    exact ⟨qs, rfl⟩
  · simp at h

theorem readPieces_shorter {s r : Gapped} {ps : List Piece} (h : readPieces s = some (ps, r)) :
    r.length < s.length := by
  fun_induction readPieces s generalizing ps r with
  | case1 => simp at h
  | case2 s =>
    obtain ⟨rfl, rfl⟩ : [] = ps ∧ s = r := by simpa using h
    simp
  | case3 _ _ _ _ s ih | case4 _ s _ ih | case5 _ s _ _ _ ih =>
    obtain ⟨_, h⟩ := putPiece_eq_some h
    have := ih h
    simp only [List.length_cons]
    omega

theorem read_shorter {s r : Gapped} {t : Lexeme} (h : read s = some (t, r)) :
    r.length < s.length := by
  unfold read at h
  split at h
  case h_10 =>
    obtain ⟨⟨ps, rest⟩, hps, heq⟩ := Option.map_eq_some_iff.mp h
    obtain ⟨-, rfl⟩ := Prod.mk.inj heq
    have := readPieces_shorter hps
    simp only [List.length_cons]
    omega
  case h_11 c s _ _ _ _ _ _ _ _ _ _ =>
    split at h
    · obtain ⟨n, -, heq⟩ := Option.map_eq_some_iff.mp h
      obtain ⟨-, rfl⟩ := Prod.mk.inj heq
      have := (List.dropWhile_suffix isNumeral (l := s)).length_le
      simp only [List.length_cons]
      omega
    · exact absurd h (by simp)
  case h_12 => exact absurd h (by simp)
  all_goals
    obtain ⟨-, rfl⟩ := Prod.mk.inj (Option.some.inj h)
    simp only [List.length_cons]
    omega

/-- All lexemes of a text, if it is made of lexemes and blanks only. -/
def scan (s : Gapped) : Option (List Lexeme) :=
  match s with
  | [] => some []
  | c :: s =>
    if isBlank c then scan s
    else
      match _h : read (c :: s) with
      | none => none
      | some (lexeme, rest) => (scan rest).map (lexeme :: ·)
termination_by s.length
decreasing_by
  · simp
  · exact read_shorter _h

end Lexeme
end TokenSurvey.Json
