import TokenSurvey.Settings.Environment
import TokenSurvey.Settings.File
import TokenSurvey.Storage.Disk
import TokenSurvey.Text.Utf8

/-! Settings loaded from files. -/
namespace TokenSurvey.Settings

open Storage (Content Disk Obstacle)

def unreadable (detail : String) : Fault := .settings ("Failed to read config file: " ++ detail)

/-- A file holds UTF-8 text. -/
def ofContent (content : Content) : Except Fault Settings :=
  match Text.strict? (Text.decode content) with
  | some text => ofToml text
  | none => .error (unreadable "stream did not contain valid UTF-8")

def ofReading : Except Obstacle Content → Except Fault Settings
  | .ok content => ofContent content
  | .error obstacle => .error (unreadable obstacle.message)

/-- The home folder is where a variable says, or else the one that the user's account has. -/
def homeFolder? (env : Environment) (account : Option String) : Option String :=
  ((env "HOME").filter (· ≠ "")).or (account.filter (· ≠ ""))

/-- The folder of settings is where a variable says, or else below the home folder. -/
def folder? (env : Environment) (account : Option String) : Option String :=
  match (env "XDG_CONFIG_HOME").filter Disk.isAbsolute with
  | some folder => some folder
  | none => (homeFolder? env account).map (· ++ "/.config")

def standardFile? (env : Environment) (account : Option String) : Option String :=
  (folder? env account).map (· ++ "/token-bench/config.toml")

/-- A file that is named must be there; the standard one need not be. -/
def load (disk : Disk) (env : Environment) (account named : Option String) :
    Except Fault Settings :=
  match named with
  | some name => ofReading (disk.read name)
  | none =>
    match (standardFile? env account).filter disk.isFile with
    | some name => ofReading (disk.read name)
    | none => .ok {}

end TokenSurvey.Settings
