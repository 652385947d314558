/-! Patterns that cut pieces off a text: the first alternative wins, and each part takes as much as
the parts after it allow. -/
namespace TokenSurvey.Tokens

inductive Pattern where
  | one (p : Char → Bool)
  | many (p : Char → Bool)
  | optional (q : Pattern)
  | seq (q r : Pattern)
  | alt (q r : Pattern)
  | notBefore (p : Char → Bool)

namespace Pattern

/-- What follows a part: given the rest of the text and the length taken so far, the whole length. -/
abbrev Next := List Char → Nat → Option Nat

/-- Takes as many characters as it can, and gives back one at a time. -/
def runMany (p : Char → Bool) (next : Next) : List Char → Nat → Option Nat
  | [], taken => next [] taken
  | c :: s, taken =>
    if p c then (runMany p next s (taken + 1)).or (next (c :: s) taken) else next (c :: s) taken

def run : Pattern → Next → List Char → Nat → Option Nat
  | one p, next, s, taken =>
    match s with
    | [] => none
    | c :: s => if p c then next s (taken + 1) else none
  | many p, next, s, taken => runMany p next s taken
  | optional q, next, s, taken => (q.run next s taken).or (next s taken)
  | seq q r, next, s, taken => q.run (r.run next) s taken
  | alt q r, next, s, taken => (q.run next s taken).or (r.run next s taken)
  | notBefore p, next, s, taken =>
    match s with
    | [] => next [] taken
    | c :: s => if p c then none else next (c :: s) taken

/-- The length of the match at the start of a text. -/
def matchLength (q : Pattern) (s : List Char) : Option Nat := q.run (fun _ taken => some taken) s 0

def several (p : Char → Bool) : Pattern := seq (one p) (many p)

def choice (q : Pattern) (qs : List Pattern) : Pattern :=
  match qs with
  | [] => q
  | r :: rs => alt q (choice r rs)

/-- Cuts a text into matches, one after another; a character that no match starts at is passed over. -/
def pieces (q : Pattern) : List Char → List (List Char)
  | [] => []
  | c :: s =>
    match q.matchLength (c :: s) with
    | some (n + 1) => (c :: s.take n) :: q.pieces (s.drop n)
    | _ => q.pieces s
termination_by s => s.length
decreasing_by
  · simp only [List.length_drop, List.length_cons]
    omega
  · simp

end Pattern
end TokenSurvey.Tokens
