import TokenSurvey.Proofs.Csv.Reading
import TokenSurvey.Proofs.Export.Rendering
import TokenSurvey.Proofs.Text.Utf8

/-! The sheet of any records reads back: a header, and one row of nine fields for each record. -/
namespace TokenSurvey.Report.Sheet

open Tokens (encodeText)

theorem ne_nil_of_mem_rows {records : List Record} {row : List (List Char)}
    (h : row ∈ rows records) : row ≠ [] := by
  obtain ⟨fields, hfields, rfl⟩ := List.mem_map.mp h
  rcases List.mem_cons.mp hfields with rfl | hfields
  · simp [header]
  · obtain ⟨r, -, rfl⟩ := List.mem_map.mp hfields
    simp [Sheet.row]

theorem sheet_reads_back (records : List Record) :
    Text.strict? (Text.decode (Export.sheet records).bytes) = some (render records) ∧
    Csv.read? (render records).toList = some ((header :: records.map fun r =>
      [r.label, r.provider.name, r.model, toString r.statistics.trials,
        Decimal.fixed 4 r.statistics.mean, Decimal.fixed 4 r.statistics.p50,
        Decimal.fixed 4 r.statistics.p95, Decimal.fixed 4 r.statistics.stdev,
        Decimal.fixed 4 r.statistics.perThousand]).map (·.map String.toList)) := by
  constructor
  · rw [Export.bytes_sheet, Text.strict?_decode_encodeText]
  · rw [render, String.toList_ofList, Csv.read?_write _ fun row => ne_nil_of_mem_rows]
    rfl

end TokenSurvey.Report.Sheet
