import TokenSurvey.Tokens.Tokenizer

/-! The ways to count tokens locally. -/
namespace TokenSurvey

inductive Encoding where
  | cl100k
  | o200k
  | p50k
  | p50kEdit
  | r50k
  | heuristic
  deriving DecidableEq

namespace Encoding

def all : List Encoding := [cl100k, o200k, p50k, p50kEdit, r50k, heuristic]

def name : Encoding → String
  | cl100k => "cl100k_base"
  | o200k => "o200k_base"
  | p50k => "p50k_base"
  | p50kEdit => "p50k_edit"
  | r50k => "r50k_base"
  | heuristic => "heuristic"

/-- The name in descriptions of a counter. -/
def title : Encoding → String
  | cl100k => "Cl100kBase"
  | o200k => "O200kBase"
  | p50k => "P50kBase"
  | p50kEdit => "P50kEdit"
  | r50k => "R50kBase"
  | heuristic => "Heuristic"

def ofName? (s : String) : Option Encoding := all.find? (·.name = s)

/-- The encoding that stands for an unknown one. -/
def standard : Encoding := cl100k

/-- The newest general encoding, for models that are not known. -/
def newerGeneral : Encoding := o200k

def olderGeneral : Encoding := cl100k

/-- The heuristic alone has no tokenizer. -/
def tokenizer? : Encoding → Option Tokens.Tokenizer
  | cl100k => some Tokens.cl100k
  | o200k => some Tokens.o200k
  | p50k | p50kEdit => some Tokens.p50k
  | r50k => some Tokens.r50k
  | heuristic => none

/-- A token for every four bytes, the last one perhaps not full. -/
def heuristicCount (text : String) : Nat := (text.utf8ByteSize + 3) / 4

def count (e : Encoding) (text : String) : Nat :=
  match e.tokenizer? with
  | some t => t.count text
  | none => heuristicCount text

end Encoding
end TokenSurvey
