import Std.Time.DateTime.Timestamp
import TokenSurvey.Command.Invocation

/-! The program: files, variables and the clock for the survey. -/
namespace TokenSurvey.Command

open Settings (Environment)
open Storage (Content Obstacle)

/-- The variables that count. -/
def watched : List String := ["TOKEN_BENCH_SIZES", "TOKEN_BENCH_TRIALS", "TOKEN_BENCH_SEED",
  "ANTHROPIC_BASE_URL", Settings.keyVariable, "XDG_CONFIG_HOME", "HOME"]

def readEnvironment : IO Environment := do
  let values ← watched.mapM fun name => do pure (name, ← IO.getEnv name)
  pure fun name => (values.lookup name).join

def obstacle : IO.Error → Obstacle
  | .noFileOrDirectory .. => .missing
  | .inappropriateType .. => .isFolder
  | e => .other (toString e)

def readFile (name : String) : IO (Except Obstacle Content) := do
  try pure (.ok (← IO.FS.readBinFile name).toList)
  catch e => pure (.error (obstacle e))

/-- The home folder that a table of accounts has for the user of a process. -/
def homeIn? (process accounts : Array String) : Option String := do
  let user ← ((← process.find? (·.startsWith "Uid:")).splitOn "\t")[1]?
  let account ← (accounts.toList.map (·.splitOn ":")).find? (·[2]? = some user)
  account[5]?

def accountHome : IO (Option String) := do
  try pure (homeIn? (← IO.FS.lines "/proc/self/status") (← IO.FS.lines "/etc/passwd"))
  catch _ => pure none

/-- The standard file need not be there. -/
def loadSettings (env : Environment) (named : Option String) : IO (Except Fault Settings) := do
  match named, Settings.standardFile? env (← accountHome) with
  | some name, _ => pure (Settings.ofReading (← readFile name))
  | none, none => pure (.ok {})
  | none, some name =>
    match ← readFile name with
    | .error .missing | .error .isFolder => pure (.ok {})
    | reading => pure (Settings.ofReading reading)

def currentTime : IO Report.Timestamp := do
  let time := (← Std.Time.Timestamp.now).val
  pure { seconds := time.second.val, nanos := time.nano.val.toNat }

def Destination.write (d : Destination) : IO Unit := do
  try
    IO.FS.writeBinFile d.name ⟨d.delivery.bytes.toArray⟩
    IO.print d.notice
  catch _ => pure ()

/-- The service is out of reach, so that every live call falls back. -/
def survey (o : Options) : IO UInt32 := do
  let env ← readEnvironment
  match (← loadSettings env o.settingsFile).bind (o.layered env) with
  | .error fault => fail fault
  | .ok s =>
    match (Survey.ofSettings s .dark).1 with
    | .error fault => fail fault
    | .ok survey =>
      IO.print survey.display
      (survey.destinations s.output (← currentTime)).forM Destination.write
      pure 0
where
  fail (fault : Fault) : IO UInt32 := do
    IO.eprint (errorText fault)
    pure 1

def start (words : List String) : IO UInt32 := do
  match Request.ofWords? words with
  | none =>
    IO.eprint usageText
    pure 2
  | some .version =>
    IO.print versionText
    pure 0
  | some (.survey options) => survey options

end TokenSurvey.Command

def main (words : List String) : IO UInt32 := TokenSurvey.Command.start words
