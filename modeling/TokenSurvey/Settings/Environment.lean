import TokenSurvey.Fault
import TokenSurvey.Settings.Basic
import TokenSurvey.Text.Numeral
import TokenSurvey.Text.Pieces

/-! Settings taken from variables, and the choice of the key. -/
namespace TokenSurvey.Settings

open Text (Numeral.read)

/-- The value of a variable, if it is set; one that is not UTF-8 counts as not set. -/
abbrev Environment := String → Option String

def badNumber (parts : List String) (fault : Text.Numeral.Fault) : Fault :=
  .settings (": ".intercalate (parts ++ [fault.message]))

def readNumber (name : String) (value : String) : Except Fault Nat :=
  (Numeral.read (Unicode.trim value.toList)).mapError (badNumber [name])

def readSize (name : String) (piece : List Char) : Except Fault Nat :=
  (Numeral.read piece).mapError (badNumber [name, String.ofList piece])

/-- Numbers between commas; pieces of white space alone are passed over. -/
def readSizes (name : String) (value : String) : Except Fault (List Nat) :=
  (((Text.pieces ',' value.toList).map Unicode.trim).filter (· ≠ [])).mapM (readSize name)

/-- The value that a variable gives, or the one at hand if it is not set. -/
def fromVariable {α : Type} (env : Environment) (name : String)
    (read : String → String → Except Fault α) (current : α) : Except Fault α :=
  match env name with
  | some value => read name value
  | none => .ok current

/-- Sizes come before trials and these before the seed; the first that cannot be read is the fault. -/
def withEnvironment (s : Settings) (env : Environment) : Except Fault Settings := do
  let sizes ← fromVariable env "TOKEN_BENCH_SIZES" readSizes s.run.sizes
  let trials ← fromVariable env "TOKEN_BENCH_TRIALS" readNumber s.run.trials
  let seed ← fromVariable env "TOKEN_BENCH_SEED" readNumber s.run.seed
  pure { s with
    run := { sizes, trials, seed }
    access := { s.access with baseUrl := (env "ANTHROPIC_BASE_URL").getD s.access.baseUrl } }

def keyVariable : String := "ANTHROPIC_API_KEY"

/-- The first key that is there and not empty. -/
def firstKey (sources : List (Option String)) : Option String :=
  (sources.filterMap id).find? (· ≠ "")

/-- A key given on the spot ranks above the one in the settings, and that above the environment's. -/
def withKey (s : Settings) (given environment : Option String) : Settings :=
  { s with access := { s.access with apiKey := firstKey [given, s.access.apiKey, environment] } }

end TokenSurvey.Settings
