import TokenSurvey.Provider
import TokenSurvey.Statistics

/-! A row of results: what was measured, and the statistics. -/
namespace TokenSurvey

structure Record where
  label : String
  provider : Provider
  model : String
  statistics : Statistics
  deriving DecidableEq

def Record.ofCounts (label : String) (provider : Provider) (model : String) (counts : List Nat)
    (characters : Nat) : Except Fault Record :=
  (Statistics.summarize counts characters).map fun statistics => { label, provider, model, statistics }

/-- The counts of one model on all texts of one size. -/
structure Sample where
  size : Nat
  provider : Provider
  model : String
  counts : List Nat
  deriving DecidableEq

namespace Sample

def label (s : Sample) : String := toString s.size ++ " chars"

def summarize (s : Sample) : Except Fault Record :=
  Record.ofCounts s.label s.provider s.model s.counts s.size

end Sample
end TokenSurvey
