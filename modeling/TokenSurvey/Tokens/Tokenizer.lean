import TokenSurvey.Tokens.Merging
import TokenSurvey.Tokens.Splitting

/-! A tokenizer splits a text into pieces and merges each by its vocabulary. -/
namespace TokenSurvey.Tokens

structure Tokenizer where
  splitting : Pattern
  vocabulary : Vocabulary

def encodeText (s : List Char) : Bytes := s.flatMap String.utf8EncodeChar

/-- The counts of all pieces together. -/
def Tokenizer.count (t : Tokenizer) (text : String) : Nat :=
  (t.splitting.pieces text.toList).foldr
    (fun piece count => pieceCount t.vocabulary (encodeText piece) + count) 0

/-! The standard tokenizers, with the tokens that are listed. -/

def cl100k : Tokenizer := ⟨Splitting.cl100k, .ofListing listing 1⟩

def o200k : Tokenizer := ⟨Splitting.o200k, .ofListing listing 2⟩

def p50k : Tokenizer := ⟨Splitting.p50k, .ofListing listing 3⟩

def r50k : Tokenizer := ⟨Splitting.p50k, .ofListing listing 4⟩

end TokenSurvey.Tokens
