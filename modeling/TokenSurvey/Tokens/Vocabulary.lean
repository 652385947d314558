import Std.Data.HashMap
import TokenSurvey.Tokens.Listing

/-! Vocabularies: which byte strings are tokens, and in what order they are preferred. -/
namespace TokenSurvey.Tokens

abbrev Bytes := List UInt8

/-- Every single byte is a token; `ranks` holds the longer ones. -/
structure Vocabulary where
  ranks : Std.HashMap Bytes Nat

/-- The bytes that print rank first, then the others, each in order. -/
def byteRank (b : UInt8) : Nat :=
  let n := b.toNat
  if n < 0x21 then n + 188
  else if n < 0x7F then n - 0x21
  else if n < 0xA1 then n - 0x7F + 221
  else if n < 0xAD then n - 0xA1 + 94
  else if n = 0xAD then 255
  else n - 0xAE + 106

namespace Vocabulary

def rank? (v : Vocabulary) : Bytes → Option Nat
  | [b] => some (byteRank b)
  | token => v.ranks[token]?

def nibble (c : Char) : UInt8 :=
  if c.isDigit then c.toUInt8 - 48 else c.toUInt8 - 87

def readBytes : List Char → Bytes
  | high :: low :: s => (nibble high * 16 + nibble low) :: readBytes s
  | _ => []

/-- The token and rank that a line of a listing holds in a column. -/
def readLine? (column : Nat) (line : String) : Option (Bytes × Nat) := do
  let fields := line.splitOn " "
  let token ← fields[0]?
  let rank ← fields[column]?
  pure (readBytes token.toList, ← rank.toNat?)

def ofListing (text : String) (column : Nat) : Vocabulary :=
  ⟨Std.HashMap.ofList ((text.splitOn "\n").filterMap (readLine? column))⟩

end Vocabulary
end TokenSurvey.Tokens
