import TokenSurvey.Fault
import TokenSurvey.Settings.Basic
import TokenSurvey.Toml.Document

/-! Settings from a TOML document, field by field. -/
namespace TokenSurvey.Settings

def natural? : Toml → Option Nat
  | .integer n => if 0 ≤ n then some n.toNat else none
  | _ => none

def string? : Toml → Option String
  | .string s => some s
  | _ => none

def listOf? {α : Type} (item? : Toml → Option α) : Toml → Option (List α)
  | .array items => items.mapM item?
  | _ => none

/-- Where the fields of a section are found: by name, or by position in an array. -/
inductive Section where
  | named (entries : List (String × Toml))
  | listed (items : List Toml)

/-- A moment is a section without fields. -/
def Section.ofToml? : Toml → Option Section
  | .table entries => some (.named entries)
  | .array items => some (.listed items)
  | .moment _ => some (.named [])
  | _ => none

def Section.field? (s : Section) (position : Nat) (name : String) : Option Toml :=
  match s with
  | named entries => entries.lookup name
  | listed items => items[position]?

/-- A field that is absent keeps its default; one that is there must have its type. -/
def Section.read (s : Section) {α : Type} (position : Nat) (name : String) (value? : Toml → Option α)
    (default : α) : Option α :=
  match s.field? position name with
  | none => some default
  | some v => value? v

def Run.ofSection? (s : Section) : Option Run := do
  let d : Run := {}
  pure {
    sizes := ← s.read 0 "sizes" (listOf? natural?) d.sizes
    trials := ← s.read 1 "trials" natural? d.trials
    seed := ← s.read 2 "seed" natural? d.seed }

def Models.ofSection? (s : Section) : Option Models := do
  let d : Models := {}
  pure {
    openAI := ← s.read 0 "openai" (listOf? string?) d.openAI
    anthropic := ← s.read 1 "anthropic" (listOf? string?) d.anthropic }

def Access.ofSection? (s : Section) : Option Access := do
  let d : Access := {}
  pure {
    apiKey := ← s.read 0 "api_key" (fun v => (string? v).map some) d.apiKey
    baseUrl := ← s.read 1 "base_url" string? d.baseUrl
    apiVersion := ← s.read 2 "api_version" string? d.apiVersion
    timeoutSeconds := ← s.read 3 "timeout_secs" (fun v => (natural? v).map some) d.timeoutSeconds }

def Output.ofSection? (s : Section) : Option Output := do
  let d : Output := {}
  pure {
    csv := ← s.read 0 "csv" (fun v => (string? v).map some) d.csv
    json := ← s.read 1 "json" (fun v => (string? v).map some) d.json }

/-- Sections that are absent keep their defaults; other entries are passed over. -/
def ofEntries? (entries : List (String × Toml)) : Option Settings := do
  let document : Section := .named entries
  let of {α : Type} (f : Section → Option α) (v : Toml) : Option α := (Section.ofToml? v).bind f
  pure {
    run := ← document.read 0 "run" (of Run.ofSection?) {}
    models := ← document.read 1 "models" (of Models.ofSection?) {}
    access := ← document.read 2 "anthropic" (of Access.ofSection?) {}
    output := ← document.read 3 "output" (of Output.ofSection?) {} }

def ofToml (text : String) : Except Fault Settings :=
  match (Toml.read? text).bind ofEntries? with
  | some s => .ok s
  | none => .error (.settings "TOML parse error")

end TokenSurvey.Settings
