import TokenSurvey.Decimal.Fixed
import TokenSurvey.Record

/-! Records as a table of fixed columns. -/
namespace TokenSurvey.Report.Table

inductive Alignment where
  | left
  | right

structure Column where
  title : String
  width : Nat
  alignment : Alignment := .right
  cell : Record → String

/-- Pads a cell to a width; what is wider is not cut. -/
def Column.pad (c : Column) (s : String) : String :=
  let blanks := String.ofList (List.replicate (c.width - s.length) ' ')
  match c.alignment with
  | .left => s ++ blanks
  | .right => blanks ++ s

/-- Means, deviations and rates have one place, order statistics none. -/
def columns : List Column := [
  { title := "Size", width := 10, cell := (·.label) },
  { title := "Provider", width := 9, cell := (·.provider.name) },
  { title := "Model", width := 30, alignment := .left, cell := (·.model) },
  { title := "Trials", width := 6, cell := fun r => toString r.statistics.trials },
  { title := "MeanTokens", width := 10, cell := fun r => Decimal.fixed 1 r.statistics.mean },
  { title := "P50", width := 6, cell := fun r => Decimal.fixed 0 r.statistics.p50 },
  { title := "P95", width := 6, cell := fun r => Decimal.fixed 0 r.statistics.p95 },
  { title := "Stdev", width := 7, cell := fun r => Decimal.fixed 1 r.statistics.stdev },
  { title := "MeanTok/1kChars", width := 14, cell := fun r => Decimal.fixed 1 r.statistics.perThousand }]

/-- Two blanks stand between columns. -/
def row (cells : Column → String) : String :=
  "  ".intercalate (columns.map fun c => c.pad (cells c))

def header : String := row (·.title)

/-- A row of dashes as long as the header. -/
def rule : String := String.ofList (List.replicate header.length '-')

def line (r : Record) : String := row (·.cell r)

def render (records : List Record) : String :=
  String.join ((header :: rule :: records.map line).map (· ++ "\n"))

end TokenSurvey.Report.Table
