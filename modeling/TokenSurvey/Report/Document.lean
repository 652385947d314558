import TokenSurvey.Counter.Registry
import TokenSurvey.Json.Float
import TokenSurvey.Plan
import TokenSurvey.Report.Timestamp

/-! The report of a run as a JSON document. -/
namespace TokenSurvey.Report

/-- The local encoding behind the counts of a model. -/
structure ModelEncoding where
  provider : Provider
  model : String
  encoding : Encoding

structure Document where
  generatedAt : Timestamp
  seed : Nat
  trials : Nat
  sizes : List Nat
  counters : List (Provider × Mode)
  encodings : List ModelEncoding
  results : List Record

namespace Document

/-- Every pair of the plan, with the encoding that its counter uses locally. -/
def ofRun (p : Plan) (r : Registry) (results : List Record) (generatedAt : Timestamp) : Document :=
  { generatedAt
    seed := p.seed
    trials := p.trials
    sizes := p.sizes
    counters := r.bindings
    encodings := p.pairs.map fun (provider, model) =>
      { provider, model, encoding := (r.counter provider).localEncoding model }
    results }

def binding : Provider × Mode → Json
  | (provider, mode) => .record [("provider", .text provider.name), ("mode", .text mode.name)]

def bindings (bs : List (Provider × Mode)) : Json := .array (bs.map binding)

def encoding (e : ModelEncoding) : Json :=
  .record [("provider", .text e.provider.name), ("model", .text e.model),
    ("encoding", .text e.encoding.name)]

/-- The statistics stand beside what was measured, not in an object of their own. -/
def result (r : Record) : Json :=
  .record [
    ("size_label", .text r.label),
    ("provider", .text r.provider.name),
    ("model", .text r.model),
    ("num_trials", .natural r.statistics.trials),
    ("mean_tokens", .ofBinary64 r.statistics.mean),
    ("p50_tokens", .ofBinary64 r.statistics.p50),
    ("p95_tokens", .ofBinary64 r.statistics.p95),
    ("stdev_tokens", .ofBinary64 r.statistics.stdev),
    ("mean_tokens_per_1k_chars", .ofBinary64 r.statistics.perThousand)]

def toJson (d : Document) : Json :=
  .record [
    ("generated_at", .text d.generatedAt.text),
    ("seed", .natural d.seed),
    ("trials", .natural d.trials),
    ("sizes", .array (d.sizes.map Json.natural)),
    ("counters", bindings d.counters),
    ("encodings", .array (d.encodings.map encoding)),
    ("results", .array (d.results.map result))]

end Document
end TokenSurvey.Report
