import TokenSurvey.Settings.Loading

/-! What a layer of settings gives, field by field. Settings read from a file are its layer with
defaults in the fields that it leaves out. -/
namespace TokenSurvey.Settings

open Storage (Content Disk)

/-- Settings before any layer. -/
def standard : Settings := {}

structure Run.Layer where
  sizes : Option (List Nat) := none
  trials : Option Nat := none
  seed : Option Nat := none
  deriving DecidableEq

def Run.Layer.settings (l : Run.Layer) : Run where
  sizes := l.sizes.getD standard.run.sizes
  trials := l.trials.getD standard.run.trials
  seed := l.seed.getD standard.run.seed

structure Models.Layer where
  openAI : Option (List String) := none
  anthropic : Option (List String) := none
  deriving DecidableEq

def Models.Layer.settings (l : Models.Layer) : Models where
  openAI := l.openAI.getD standard.models.openAI
  anthropic := l.anthropic.getD standard.models.anthropic

structure Access.Layer where
  apiKey : Option String := none
  baseUrl : Option String := none
  apiVersion : Option String := none
  timeoutSeconds : Option Nat := none
  deriving DecidableEq

def Access.Layer.settings (l : Access.Layer) : Access where
  apiKey := l.apiKey
  baseUrl := l.baseUrl.getD standard.access.baseUrl
  apiVersion := l.apiVersion.getD standard.access.apiVersion
  timeoutSeconds := l.timeoutSeconds

/-- The fields that a file gives; an output has no default, so that it is a layer of its own. -/
structure Layer where
  run : Run.Layer := {}
  models : Models.Layer := {}
  access : Access.Layer := {}
  output : Output := {}
  deriving DecidableEq

def Layer.settings (l : Layer) : Settings where
  run := l.run.settings
  models := l.models.settings
  access := l.access.settings
  output := l.output

section Fields

variable {α : Type} (s : Section) (position : Nat) (name : String) (value? : Toml → Option α)

/-- The value of a field that is there; what is there must have its type. -/
def Section.given : Option (Option α) := (s.field? position name).mapM value?

theorem Section.read_eq (default : α) :
    s.read position name value? default =
      (s.given position name value?).map (·.getD default) := by
  rw [read, given]
  cases s.field? position name with
  | none => rfl
  | some v => cases h : value? v <;> simp [h]

/-- A field without a default is what is given. -/
theorem Section.read_optional :
    s.read position name (fun v => (value? v).map some) none = s.given position name value? := by
  rw [read, given]
  cases s.field? position name with
  | none => rfl
  | some v => cases h : value? v <;> simp [h]

end Fields

/-- The section of a name; one that is absent has no fields. -/
def section? (entries : List (String × Toml)) (name : String) : Option Section :=
  match entries.lookup name with
  | none => some (.named [])
  | some v => Section.ofToml? v

theorem read_section {α : Type} (entries : List (String × Toml)) (position : Nat) (name : String)
    {f : Section → Option α} {default : α} (h : f (.named []) = some default) :
    (Section.named entries).read position name (fun v => (Section.ofToml? v).bind f) default =
      (section? entries name).bind f := by
  rw [Section.read, Section.field?, section?]
  cases entries.lookup name with
  | none => exact h.symm
  | some v => rfl

def Run.Layer.ofSection? (s : Section) : Option Run.Layer := do
  pure {
    sizes := ← s.given 0 "sizes" (listOf? natural?)
    trials := ← s.given 1 "trials" natural?
    seed := ← s.given 2 "seed" natural? }

def Models.Layer.ofSection? (s : Section) : Option Models.Layer := do
  pure {
    openAI := ← s.given 0 "openai" (listOf? string?)
    anthropic := ← s.given 1 "anthropic" (listOf? string?) }

def Access.Layer.ofSection? (s : Section) : Option Access.Layer := do
  pure {
    apiKey := ← s.given 0 "api_key" string?
    baseUrl := ← s.given 1 "base_url" string?
    apiVersion := ← s.given 2 "api_version" string?
    timeoutSeconds := ← s.given 3 "timeout_secs" natural? }

theorem Run.ofSection?_eq (s : Section) :
    Run.ofSection? s = (Run.Layer.ofSection? s).map Run.Layer.settings := by
  simp only [Run.ofSection?, Run.Layer.ofSection?, Section.read_eq, Option.bind_eq_bind,
    Option.pure_def, Option.map_bind, Option.bind_map, Function.comp_def, Option.map_some]
  rfl

theorem Models.ofSection?_eq (s : Section) :
    Models.ofSection? s = (Models.Layer.ofSection? s).map Models.Layer.settings := by
  simp only [Models.ofSection?, Models.Layer.ofSection?, Section.read_eq, Option.bind_eq_bind,
    Option.pure_def, Option.map_bind, Option.bind_map, Function.comp_def, Option.map_some]
  rfl

theorem Access.ofSection?_eq (s : Section) :
    Access.ofSection? s = (Access.Layer.ofSection? s).map Access.Layer.settings := by
  simp only [Access.ofSection?, Section.read_optional]
  simp only [Access.Layer.ofSection?, Section.read_eq, Option.bind_eq_bind, Option.pure_def,
    Option.map_bind, Option.bind_map, Function.comp_def, Option.map_some]
  rfl

/-- Sections and fields that are not known are passed over. -/
def Layer.ofEntries? (entries : List (String × Toml)) : Option Layer := do
  pure {
    run := ← (section? entries "run").bind Run.Layer.ofSection?
    models := ← (section? entries "models").bind Models.Layer.ofSection?
    access := ← (section? entries "anthropic").bind Access.Layer.ofSection?
    output := ← (section? entries "output").bind Output.ofSection? }

theorem Layer.settings_ofEntries? (entries : List (String × Toml)) :
    Settings.ofEntries? entries = (ofEntries? entries).map settings := by
  have run : Run.ofSection? (.named []) = some {} := rfl
  have models : Models.ofSection? (.named []) = some {} := rfl
  have access : Access.ofSection? (.named []) = some {} := rfl
  have output : Output.ofSection? (.named []) = some {} := rfl
  simp only [Settings.ofEntries?, ofEntries?, read_section _ _ _ run, read_section _ _ _ models,
    read_section _ _ _ access, read_section _ _ _ output]
  simp only [Run.ofSection?_eq, Models.ofSection?_eq, Access.ofSection?_eq, Option.bind_eq_bind,
    Option.pure_def, Option.bind_assoc, Option.map_bind, Option.bind_map, Function.comp_def,
    Option.map_some]
  rfl

/-- What the content of a file gives, if it is the text of a document and fields have their types. -/
def Layer.ofContent? (content : Content) : Option Layer := do
  let text ← Text.strict? (Text.decode content)
  Layer.ofEntries? (← Toml.read? text)

theorem ofContent_eq_ok_iff {content : Content} {s : Settings} :
    ofContent content = .ok s ↔ ∃ l, Layer.ofContent? content = some l ∧ s = l.settings := by
  rw [ofContent, Layer.ofContent?]
  cases Text.strict? (Text.decode content) with
  | none => simp
  | some text =>
    simp only [ofToml, Option.bind_eq_bind, Option.bind_some]
    cases Toml.read? text with
    | none => simp
    | some entries =>
      rw [Option.bind_some, Option.bind_some, Layer.settings_ofEntries?]
      cases Layer.ofEntries? entries <;> simp [eq_comm]

/-- The file in effect: the one that is named, or else the standard one if it is there. -/
def file? (disk : Disk) (env : Environment) (account named : Option String) : Option String :=
  named.or ((standardFile? env account).filter disk.isFile)

theorem load_eq (disk : Disk) (env : Environment) (account named : Option String) :
    load disk env account named =
      match file? disk env account named with
      | some name => ofReading (disk.read name)
      | none => .ok {} := by
  cases named <;> rfl

/-- What the file in effect gives; without a file nothing is given. -/
def Layer.load? (disk : Disk) (env : Environment) (account named : Option String) :
    Option Layer :=
  match file? disk env account named with
  | none => some {}
  | some name => (disk.read name).toOption.bind Layer.ofContent?

theorem load_eq_ok_iff {disk : Disk} {env : Environment} {account named : Option String}
    {s : Settings} :
    load disk env account named = .ok s ↔
      ∃ l, Layer.load? disk env account named = some l ∧ s = l.settings := by
  rw [load_eq, Layer.load?]
  cases file? disk env account named with
  | none =>
    have nothing : ({} : Layer).settings = {} := rfl
    simp [nothing, eq_comm]
  | some name =>
    change ofReading (disk.read name) = .ok s ↔
      ∃ l, (disk.read name).toOption.bind Layer.ofContent? = some l ∧ s = l.settings
    cases disk.read name with
    | error obstacle => simp [ofReading, Except.toOption]
    | ok content => exact ofContent_eq_ok_iff

end TokenSurvey.Settings
