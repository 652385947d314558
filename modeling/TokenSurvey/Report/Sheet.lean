import TokenSurvey.Csv
import TokenSurvey.Decimal.Fixed
import TokenSurvey.Record

/-! Records as comma-separated values. -/
namespace TokenSurvey.Report.Sheet

def header : List String := ["size_label", "provider", "model", "num_trials", "mean_tokens",
  "p50_tokens", "p95_tokens", "stdev_tokens", "mean_tokens_per_1k_chars"]

/-- Statistics have four places. -/
def row (r : Record) : List String :=
  [r.label, r.provider.name, r.model, toString r.statistics.trials] ++
    [r.statistics.mean, r.statistics.p50, r.statistics.p95, r.statistics.stdev,
      r.statistics.perThousand].map (Decimal.fixed 4)

def rows (records : List Record) : List (List (List Char)) :=
  (header :: records.map row).map fun fields => fields.map String.toList

def render (records : List Record) : String := String.ofList (Csv.write (rows records))

end TokenSurvey.Report.Sheet
