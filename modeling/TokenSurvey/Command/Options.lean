import TokenSurvey.Text.Numeral
import TokenSurvey.Text.Pieces

/-! The words of a command line, and the options that they give. -/
namespace TokenSurvey.Command

inductive OptionName where
  | sizes
  | trials
  | seed
  | openAIModels
  | anthropicModels
  | apiKey
  | baseUrl
  | settingsFile
  | csv
  | json
  | verbose
  | version
  deriving DecidableEq

namespace OptionName

def all : List OptionName := [sizes, trials, seed, openAIModels, anthropicModels, apiKey, baseUrl,
  settingsFile, csv, json, verbose, version]

def long : OptionName → String
  | sizes => "sizes"
  | trials => "trials"
  | seed => "seed"
  | openAIModels => "openai-models"
  | anthropicModels => "anthropic-models"
  | apiKey => "anthropic-api-key"
  | baseUrl => "anthropic-base-url"
  | settingsFile => "config"
  | csv => "csv"
  | json => "json"
  | verbose => "verbose"
  | version => "version"

def ofLong? (s : List Char) : Option OptionName := all.find? fun o => o.long.toList = s

end OptionName

/-- One word is a value, an option with the value written onto it, or several options in one. -/
inductive Token where
  | value (word : String)
  | option (name : OptionName) (attached : Option String)
  | unknown
  deriving DecidableEq

namespace Token

/-- Letters after one dash; what follows the letter of a file is its name. -/
def ofLetters : List Char → List Token
  | [] => []
  | 'v' :: s => option .verbose none :: ofLetters s
  | 'V' :: s => option .version none :: ofLetters s
  | ['c'] => [option .settingsFile none]
  | 'c' :: '=' :: s => [option .settingsFile (some (String.ofList s))]
  | 'c' :: s => [option .settingsFile (some (String.ofList s))]
  | _ :: _ => [unknown]

/-- A name after two dashes; a value may follow an equals sign. -/
def ofName (s : List Char) : Token :=
  match OptionName.ofLong? (s.takeWhile (· ≠ '=')), s.dropWhile (· ≠ '=') with
  | some name, [] => option name none
  | some name, _ :: attached => option name (some (String.ofList attached))
  | none, _ => unknown

/-- A dash alone is a value like any other word. -/
def ofWord (w : String) : List Token :=
  match w.toList with
  | '-' :: '-' :: s => [ofName s]
  | ['-'] => [value w]
  | '-' :: s => ofLetters s
  | _ => [value w]

/-- Two dashes alone end the options, and no word may come after them. -/
def ofWords : List String → List Token
  | [] => []
  | w :: ws =>
    if w = "--" then (if ws = [] then [] else [unknown]) else ofWord w ++ ofWords ws

end Token

/-- An option with the values that follow it. -/
structure Occurrence where
  name : Option OptionName
  attached : Option String := none
  following : List String := []
  deriving DecidableEq

/-- The values in front of the first option, and each option with all values up to the next. -/
def occurrences : List Token → List String × List Occurrence
  | [] => ([], [])
  | token :: tokens =>
    let (values, rest) := occurrences tokens
    match token with
    | .value w => (w :: values, rest)
    | .option name attached => ([], { name := some name, attached, following := values } :: rest)
    | .unknown => ([], { name := none } :: rest)

/-- A written-on value is the only one. -/
def Occurrence.values? (o : Occurrence) : Option (List String) :=
  match o.attached, o.following with
  | none, values => some values
  | some value, [] => some [value]
  | some _, _ :: _ => none

/-- What a command line gives; an option that is absent gives nothing. -/
structure Options where
  sizes : Option (List Nat) := none
  trials : Option Nat := none
  seed : Option Nat := none
  openAIModels : Option (List String) := none
  anthropicModels : Option (List String) := none
  apiKey : Option String := none
  baseUrl : Option String := none
  settingsFile : Option String := none
  csv : Option String := none
  json : Option String := none
  verbose : Bool := false
  deriving DecidableEq

/-- What a command line asks for. -/
inductive Request where
  | version
  | survey (options : Options)
  deriving DecidableEq

/-- Why reading stops before the last word. -/
inductive Stop where
  | misuse
  | version
  deriving DecidableEq

namespace Options

def number (w : String) : Except Stop Nat := (Text.Numeral.read w.toList).mapError fun _ => .misuse

/-- A value that may be given once. -/
def once {α : Type} (current : Option α) (given : Except Stop α) : Except Stop (Option α) :=
  match current with
  | some _ => .error .misuse
  | none => given.map some

/-- Values that add up. -/
def more {α : Type} (current : Option (List α)) (given : List α) : Option (List α) :=
  some (current.getD [] ++ given)

/-- A file has a name. -/
def fileName (w : String) : Except Stop String := if w = "" then .error .misuse else .ok w

/-- Lists take any number of values, though sizes at least one; other options take one. -/
def give (o : Options) : OptionName → List String → Except Stop Options
  | .sizes, w :: ws => do pure { o with sizes := more o.sizes (← (w :: ws).mapM number) }
  | .openAIModels, ws => .ok { o with openAIModels := more o.openAIModels ws }
  | .anthropicModels, ws => .ok { o with anthropicModels := more o.anthropicModels ws }
  | .trials, [w] => do pure { o with trials := ← once o.trials (number w) }
  | .seed, [w] => do pure { o with seed := ← once o.seed (number w) }
  | .apiKey, [w] => do pure { o with apiKey := ← once o.apiKey (.ok w) }
  | .baseUrl, [w] => do pure { o with baseUrl := ← once o.baseUrl (.ok w) }
  | .settingsFile, [w] => do pure { o with settingsFile := ← once o.settingsFile (fileName w) }
  | .csv, [w] => do pure { o with csv := ← once o.csv (fileName w) }
  | .json, [w] => do pure { o with json := ← once o.json (fileName w) }
  | .verbose, [] => if o.verbose then .error .misuse else .ok { o with verbose := true }
  | _, _ => .error .misuse

/-- A request for the version ends the reading at once, whatever comes after it. -/
def read (o : Options) (occurrence : Occurrence) : Except Stop Options :=
  match occurrence.name, occurrence.attached with
  | some .version, none => .error .version
  | some name, _ =>
    match occurrence.values? with
    | some values => o.give name values
    | none => .error .misuse
  | none, _ => .error .misuse

end Options

/-- The request that words make, or `none` if they are misused. -/
def Request.ofWords? (words : List String) : Option Request :=
  match occurrences (Token.ofWords words) with
  | ([], options) =>
    match options.foldlM Options.read {} with
    | .ok options => some (.survey options)
    | .error .version => some .version
    | .error .misuse => none
  | (_ :: _, _) => none

end TokenSurvey.Command
