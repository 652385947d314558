import TokenSurvey.Lorem.Passage
import TokenSurvey.Random.Keystream
import TokenSurvey.Record
import TokenSurvey.Settings.Basic

/-! Plans, and the measurement that a plan asks for. -/
namespace TokenSurvey

open TokenSurvey.Random (Source)

structure Plan where
  sizes : List Nat
  trials : Nat
  groups : List (Provider × List String)
  seed : Nat

/-- A way to count a text for a model of a provider, in a state of its own. -/
abbrev Tally (σ : Type) := Provider → String → String → StateM σ Nat

namespace Plan

def ofSettings (s : Settings) : Plan :=
  { sizes := s.run.sizes, trials := s.run.trials, groups := s.groups, seed := s.run.seed }

/-- Every model with its provider, group after group. -/
def pairs (p : Plan) : List (Provider × String) :=
  p.groups.flatMap fun (provider, models) => models.map fun model => (provider, model)

def sampleCount (p : Plan) : Nat :=
  p.sizes.length * p.groups.foldr (fun (_, models) count => models.length + count) 0

def check (p : Plan) : Except Fault Unit :=
  match ({ sizes := p.sizes, trials := p.trials, seed := p.seed : Settings.Run }).defect? with
  | some defect => .error (.invalidParameter defect.message)
  | none => .ok ()

def source (p : Plan) : Source := .ofSeed (UInt64.ofNat p.seed)

/-- How far a run has come: the source as drawn from so far, and the state of the tally. -/
structure Progress (σ : Type) where
  source : Source
  tally : σ

variable {σ α : Type}

/-- What is drawn leaves the tally alone. -/
def Progress.draw (x : Lorem.Drawing α) : ExceptT Fault (StateM (Progress σ)) α := fun progress =>
  let (result, source) := x progress.source
  (result, { progress with source })

/-- What is counted draws nothing and never fails. -/
def Progress.count (x : StateM σ α) : ExceptT Fault (StateM (Progress σ)) α := fun progress =>
  let (a, tally) := x progress.tally
  (.ok a, { progress with tally })

/-- Counts the texts in order. -/
def measure (tally : Tally σ) (size : Nat) (texts : List String) (provider : Provider)
    (model : String) : StateM σ Sample := do
  let counts ← texts.mapM (tally provider model)
  pure { size, provider, model, counts }

/-- Every model of every group counts the same texts. -/
def measureTexts (tally : Tally σ) (p : Plan) (size : Nat) (texts : List String) :
    StateM σ (List Sample) := do
  let samples ← p.groups.mapM fun (provider, models) =>
    models.mapM (measure tally size texts provider)
  pure samples.flatten

/-- All texts of a size are drawn before the first of them is counted. -/
def measureSize (tally : Tally σ) (p : Plan) (size : Nat) :
    ExceptT Fault (StateM (Progress σ)) (List Sample) := do
  let texts ← Progress.draw (Lorem.passages size p.trials)
  Progress.count (p.measureTexts tally size texts)

/-- Nothing is drawn or counted unless the plan is in order. -/
def perform (tally : Tally σ) (p : Plan) : ExceptT Fault (StateM (Progress σ)) (List Sample) := do
  p.check
  let samples ← p.sizes.mapM (p.measureSize tally)
  pure samples.flatten

/-- A run has a source of its own, made from the seed. -/
def run (tally : Tally σ) (p : Plan) : ExceptT Fault (StateM σ) (List Sample) := fun state =>
  let (samples, progress) := p.perform tally { source := p.source, tally := state }
  (samples, progress.tally)

def summarize (tally : Tally σ) (p : Plan) : ExceptT Fault (StateM σ) (List Record) := fun state =>
  let (samples, state) := p.run tally state
  (samples.bind fun samples => samples.mapM Sample.summarize, state)

end Plan
end TokenSurvey
