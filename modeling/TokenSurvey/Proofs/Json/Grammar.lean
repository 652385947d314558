import Mathlib.Computability.Language
import TokenSurvey.Json.Lexeme
import TokenSurvey.Json.Printer

/-! The grammar of JSON: for each value the language of the texts that it can be written as. -/
namespace TokenSurvey.Json

open Text (Gapped)

/-- Sets of texts; where characters may be any, a gap may stand for one. -/
abbrev Texts := Language (Option Char)

def word (s : String) : Texts := {t | t = Text.ofString s}

def mark (c : Char) : Texts := {t | t = [some c]}

def blanks : Texts :=
  {s | ∀ c ∈ s, c = some ' ' ∨ c = some '\t' ∨ c = some '\n' ∨ c = some '\r'}

/-- Blanks do not count around a text. -/
def padded (l : Texts) : Texts := blanks * (l * blanks)

def digits (ds : List (Fin 10)) : Gapped := ds.map fun d => some (Nat.digitChar d.val)

/-- Powers of ten after their letter; zeros may stand before other digits. -/
inductive Signed : Gapped → Int → Prop
  | plain {ds : List (Fin 10)} : ds ≠ [] → Signed (digits ds) (Lexeme.ofDigits ds)
  | plus {ds : List (Fin 10)} : ds ≠ [] → Signed (some '+' :: digits ds) (Lexeme.ofDigits ds)
  | minus {ds : List (Fin 10)} : ds ≠ [] → Signed (some '-' :: digits ds) (-Lexeme.ofDigits ds)

inductive Power : Gapped → Option Int → Prop
  | none : Power [] none
  | some {letter : Char} {s : Gapped} {e : Int} : letter = 'e' ∨ letter = 'E' → Signed s e →
      Power (some letter :: s) (some e)

/-- A point, and the digits after it. -/
def fractionText (ds : List (Fin 10)) : Gapped := if ds = [] then [] else some '.' :: digits ds

/-- A number after its sign; only its power can be written in several ways. -/
def unsigned (n : Number) : Texts :=
  {s | ∃ power, Power power n.exponent ∧
    s = (digitsOf n.whole).map some ++ (fractionText n.fraction ++ power)}

def numbers (n : Number) : Texts :=
  {s | ∃ u ∈ unsigned n, s = (if n.negative then [some '-'] else []) ++ u}

/-- A hexadecimal digit, in either case. -/
inductive Hex : Option Char → Nat → Prop
  | lower {d : Nat} : d < 16 → Hex (some (Nat.digitChar d)) d
  | upper {d : Nat} : d < 16 → Hex (some (Nat.digitChar d).toUpper) d

/-- An escape of a unit of 16 bits. -/
inductive UnitEscape : Gapped → Nat → Prop
  | mk {a b c d : Option Char} {i j k l : Nat} : Hex a i → Hex b j → Hex c k → Hex d l →
      UnitEscape [some '\\', some 'u', a, b, c, d] (i * 0x1000 + j * 0x100 + k * 0x10 + l)

/-- Letters that escape a character, and that character. -/
def letters : List (Char × Char) := [('"', '"'), ('\\', '\\'), ('/', '/'), ('b', '\x08'),
  ('f', '\x0c'), ('n', '\n'), ('r', '\r'), ('t', '\t')]

def High (code : Nat) : Prop := 0xD800 ≤ code ∧ code < 0xDC00

def Low (code : Nat) : Prop := 0xDC00 ≤ code ∧ code < 0xE000

/-- How texts are written between quotes. A surrogate that has no partner names no character. -/
inductive Quotes : Gapped → Gapped → Prop
  | nil : Quotes [] []
  | gap {s t : Gapped} : Quotes s t → Quotes (none :: s) (none :: t)
  | plain {c : Char} {s t : Gapped} : c ≠ '"' → c ≠ '\\' → 0x20 ≤ c.toNat →
      Quotes s t → Quotes (some c :: s) (some c :: t)
  | letter {e c : Char} {s t : Gapped} : (e, c) ∈ letters →
      Quotes s t → Quotes (some '\\' :: some e :: s) (some c :: t)
  | unit {u s t : Gapped} {code : Nat} : UnitEscape u code → ¬ High code → ¬ Low code →
      Quotes s t → Quotes (u ++ s) (some (Char.ofNat code) :: t)
  | pair {u v s t : Gapped} {high low : Nat} : UnitEscape u high → UnitEscape v low →
      High high → Low low → Quotes s t → Quotes (u ++ (v ++ s))
        (some (Char.ofNat ((high - 0xD800) * 0x400 + (low - 0xDC00) + 0x10000)) :: t)
  | alone {u s t : Gapped} {code : Nat} : UnitEscape u code → High code ∨ Low code →
      (High code → ∀ v low, UnitEscape v low → Low low → ¬ v <+: s) →
      Quotes s t → Quotes (u ++ s) (none :: t)

def quotations (t : Gapped) : Texts := {s | ∃ u, Quotes u t ∧ s = some '"' :: (u ++ [some '"'])}

mutual

def texts : Json → Texts
  | null => word "null"
  | bool b => word (if b then "true" else "false")
  | number n => numbers n
  | string t => quotations t
  | array [] => mark '[' * (blanks * mark ']')
  | array (v :: vs) => mark '[' * (padded (texts v) * (itemTexts vs * mark ']'))
  | object [] => mark '\x7b' * (blanks * mark '\x7d')
  | object ((n, v) :: ms) => mark '\x7b' * (padded (quotations n) * (mark ':' *
      (padded (texts v) * (memberTexts ms * mark '\x7d'))))

/-- Items after the first. -/
def itemTexts : List Json → Texts
  | [] => 1
  | v :: vs => mark ',' * (padded (texts v) * itemTexts vs)

/-- Members after the first. -/
def memberTexts : List (Gapped × Json) → Texts
  | [] => 1
  | (n, v) :: ms => mark ',' * (padded (quotations n) * (mark ':' *
      (padded (texts v) * memberTexts ms)))

end

/-- A document is one value with nothing but blanks around it. -/
def documents (v : Json) : Texts := padded (texts v)

theorem mem_blanks {s : Gapped} : s ∈ blanks ↔ ∀ c ∈ s, Lexeme.isBlank c = true := by
  refine forall₂_congr fun c _ => ?_
  simp [Lexeme.isBlank, or_assoc]

theorem nil_mem_blanks : [] ∈ blanks := by simp [mem_blanks]

theorem blanks_mul_blanks : blanks * blanks = blanks := by
  ext s
  rw [Language.mem_mul]
  constructor
  · rintro ⟨a, ha, b, hb, rfl⟩
    rw [mem_blanks] at ha hb ⊢
    exact List.forall_mem_append.mpr ⟨ha, hb⟩
  · intro hs
    exact ⟨[], nil_mem_blanks, s, hs, rfl⟩

end TokenSurvey.Json
