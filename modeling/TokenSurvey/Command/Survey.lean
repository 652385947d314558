import TokenSurvey.Export.Delivery
import TokenSurvey.Report.Table

/-! A finished survey, and what is shown and exported of it. -/
namespace TokenSurvey.Command

open Export (Delivery)
open Service (Site)

structure Survey where
  plan : Plan
  registry : Registry
  records : List Record

/-- A rendering for a file, and the notice of its success. -/
structure Destination where
  name : String
  delivery : Delivery
  notice : String

namespace Survey

/-- Nothing is asked at the site unless the settings are in order. -/
def ofSettings (s : Settings) (site : Site) : Except Fault Survey × Site :=
  match s.run.defect? with
  | some defect => (.error (.invalidParameter defect.message), site)
  | none =>
    let plan := Plan.ofSettings s
    let (records, registry) := plan.summarize Registry.count (Registry.ofAccess s.access site)
    (records.map fun records => { plan, registry, records }, registry.siteAfter site)

/-- Says how many calls of how many fell back, if any did. -/
def fallbackNote (v : Survey) : String :=
  match v.registry.anthropic.live? with
  | some l =>
    if l.fallbacks = 0 then ""
    else "\nNote: " ++ toString l.fallbacks ++ " of " ++ toString (l.fallbacks + l.answered) ++
      " Anthropic counts fell back to the cl100k_base approximation\n"
  | none => ""

def display (v : Survey) : String := "\n" ++ Report.Table.render v.records ++ v.fallbackNote

def sheet (v : Survey) (name : String) : Destination :=
  { name, delivery := Export.sheet v.records, notice := "\nWrote CSV to " ++ name ++ "\n" }

def document (v : Survey) (time : Report.Timestamp) (name : String) : Destination :=
  { name
    delivery := Export.document (.ofRun v.plan v.registry v.records time)
    notice := "Wrote JSON report to " ++ name ++ "\n" }

/-- The sheet is exported before the document. -/
def destinations (v : Survey) (output : Settings.Output) (time : Report.Timestamp) :
    List Destination :=
  (output.csv.map v.sheet).toList ++ (output.json.map (v.document time)).toList

end Survey
end TokenSurvey.Command
