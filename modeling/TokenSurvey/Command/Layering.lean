import TokenSurvey.Command.Options
import TokenSurvey.Settings.Loading

/-! Settings in layers: defaults, a file, variables, options. -/
namespace TokenSurvey.Command.Options

open Settings (Environment)

/-- An option that is given ranks above the settings at hand; a list of models may be empty. -/
def override (o : Options) (s : Settings) : Settings where
  run :=
    { sizes := o.sizes.getD s.run.sizes
      trials := o.trials.getD s.run.trials
      seed := o.seed.getD s.run.seed }
  models :=
    { openAI := o.openAIModels.getD s.models.openAI
      anthropic := o.anthropicModels.getD s.models.anthropic }
  access := { s.access with baseUrl := o.baseUrl.getD s.access.baseUrl }
  output := { csv := o.csv.or s.output.csv, json := o.json.or s.output.json }

/-- The layers above a file; a variable must be readable even where an option ranks above it. -/
def layered (o : Options) (env : Environment) (file : Settings) : Except Fault Settings := do
  let s ← file.withEnvironment env
  pure ((o.override s).withKey o.apiKey (env Settings.keyVariable))

def settings (o : Options) (disk : Storage.Disk) (env : Environment) (account : Option String) :
    Except Fault Settings := do
  o.layered env (← Settings.load disk env account o.settingsFile)

end TokenSurvey.Command.Options
