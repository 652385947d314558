import TokenSurvey.Fault
import TokenSurvey.Lorem.Corpus
import TokenSurvey.Random.Source

/-! Texts of an exact length, cut from an endless run of drawn words. -/
namespace TokenSurvey.Lorem

open TokenSurvey.Random (Source)

/-- A word of the corpus, each place equally likely. -/
def word (s : Source) : String × Source :=
  let (i, s) := s.draw corpus.length corpus_length_pos
  (corpus[i], s)

/-- A blank and a drawn word. -/
def chunk (s : Source) : List Char × Source :=
  let (w, s) := word s
  (' ' :: w.toList, s)

theorem chunk_length_pos (s : Source) : 0 < (chunk s).1.length := by simp [chunk]

/-- The first `n` characters of chunk after chunk, drawing only chunks that are needed. -/
def run (n : Nat) (s : Source) : List Char × Source :=
  if n = 0 then ([], s)
  else
    let next := chunk s
    let rest := run (n - next.1.length) next.2
    (next.1.take n ++ rest.1, rest.2)
termination_by n
decreasing_by
  have := chunk_length_pos s
  omega

/-- A text of `n` characters is a run without its leading blank. -/
def text (n : Nat) : StateM Source String := fun s =>
  let (text, s) := run (n + 1) s
  (String.ofList text.tail, s)

/-- A drawing that may be refused. What was drawn before a refusal stays drawn. -/
abbrev Drawing := ExceptT Fault (StateM Source)

/-- Only the empty text is refused. -/
def passage (n : Nat) : Drawing String := do
  if n = 0 then throw (.invalidParameter "target_chars must be positive")
  text n

def passages (n : Nat) : Nat → Drawing (List String)
  | 0 => pure []
  | trials + 1 => do
    let first ← passage n
    let others ← passages n trials
    pure (first :: others)

/-- A request for one text or for several of the same length. -/
inductive Call where
  | one (length : Nat)
  | batch (length trials : Nat)

/-- The lengths of the texts that a call asks for. -/
def Call.lengths : Call → List Nat
  | one n => [n]
  | batch n trials => List.replicate trials n

/-- A call ends at the first text that is refused. -/
def Call.perform (s : Source) (c : Call) : Except Fault (List String) × Source :=
  c.lengths.mapM passage s

end TokenSurvey.Lorem
