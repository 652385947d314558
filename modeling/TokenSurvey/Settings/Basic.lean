import TokenSurvey.Provider
import TokenSurvey.Text.Description

/-! What a survey is to do, where it asks, and where it writes. -/
namespace TokenSurvey

namespace Settings

structure Run where
  sizes : List Nat := [256, 512, 1024, 2048, 4096, 8192]
  trials : Nat := 5
  seed : Nat := 17
  deriving DecidableEq

structure Models where
  openAI : List String := ["gpt-4o", "gpt-4o-mini", "gpt-4-turbo", "gpt-5"]
  anthropic : List String :=
    ["claude-3-5-sonnet-20240620", "claude-3-5-haiku-20241022", "claude-sonnet-4-20250514"]
  deriving DecidableEq

/-- How the counting service is reached; without a key it is not asked. -/
structure Access where
  apiKey : Option String := none
  baseUrl : String := "https://api.anthropic.com"
  apiVersion : String := "2023-06-01"
  timeoutSeconds : Option Nat := none
  deriving DecidableEq

structure Output where
  csv : Option String := none
  json : Option String := none
  deriving DecidableEq

end Settings

structure Settings where
  run : Settings.Run := {}
  models : Settings.Models := {}
  access : Settings.Access := {}
  output : Settings.Output := {}
  deriving DecidableEq

namespace Settings

/-- Why a run cannot start; positions count from one. -/
inductive Defect where
  | noSize
  | emptySize (position : Nat)
  | noTrial
  deriving DecidableEq

def Defect.message : Defect → String
  | noSize => "at least one size is required"
  | emptySize position => "size #" ++ toString position ++ " must be a positive character count"
  | noTrial => "trials must be positive"

/-- The first defect of the sizes, then of the trials. -/
def Run.defect? (r : Run) : Option Defect :=
  if r.sizes = [] then some .noSize
  else match r.sizes.findIdx? (· = 0) with
    | some i => some (.emptySize (i + 1))
    | none => if r.trials = 0 then some .noTrial else none

/-- The models by provider, in the order of reports. -/
def groups (s : Settings) : List (Provider × List String) :=
  [(.openAI, s.models.openAI), (.anthropic, s.models.anthropic)]

open Text Description

def strings (xs : List String) : String := list (xs.map quoted)

def Run.describe (r : Run) : String :=
  record "RunConfig" [("sizes", list (r.sizes.map toString)), ("trials", toString r.trials),
    ("seed", toString r.seed)]

def Models.describe (m : Models) : String :=
  record "ModelsConfig" [("openai", strings m.openAI), ("anthropic", strings m.anthropic)]

/-- Of the key only its presence is shown. -/
def Access.describe (a : Access) : String :=
  record "AnthropicConfig" [
    ("api_key", optional (a.apiKey.map fun _ => quoted "<redacted>")),
    ("base_url", quoted a.baseUrl),
    ("api_version", quoted a.apiVersion),
    ("timeout_secs", optional (a.timeoutSeconds.map toString))]

def Output.describe (o : Output) : String :=
  record "OutputConfig" [("csv", optional (o.csv.map quoted)), ("json", optional (o.json.map quoted))]

def describe (s : Settings) : String :=
  record "BenchConfig" [("run", s.run.describe), ("models", s.models.describe),
    ("anthropic", s.access.describe), ("output", s.output.describe)]

end Settings
end TokenSurvey
