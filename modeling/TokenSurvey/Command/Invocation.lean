import TokenSurvey.Command.Layering
import TokenSurvey.Command.Survey

/-! An invocation from its command line to its output. -/
namespace TokenSurvey.Command

open Service (Site)
open Settings (Environment)
open Storage (Disk)

/-- What an invocation finds when it starts; `account` is the home folder that the user's account
has. -/
structure Surroundings where
  env : Environment
  account : Option String := none
  disk : Disk
  site : Site
  time : Report.Timestamp

/-- What an invocation leaves behind. -/
structure Outcome where
  exit : Nat
  output : String
  errors : String
  disk : Disk
  site : Site

def version : String := "0.1.0"

def versionText : String := "token-bench " ++ version ++ "\n"

def usageText : String := "Usage: token-bench [OPTIONS]\n"

def errorText (fault : Fault) : String := "Error: " ++ fault.message ++ "\n"

/-- An export that fails is passed over; only one that succeeds gets its notice. -/
def Destination.fill (d : Destination) (disk : Disk) : String × Disk :=
  match d.delivery.sendTo d.name disk with
  | (.ok _, disk) => (d.notice, disk)
  | (.error _, disk) => ("", disk)

def fillAll : List Destination → Disk → String × Disk
  | [], disk => ("", disk)
  | d :: ds, disk =>
    let (notice, disk) := d.fill disk
    let (notices, disk) := fillAll ds disk
    (notice ++ notices, disk)

/-- Exports do not decide on success. -/
def Options.run (o : Options) (w : Surroundings) : Outcome :=
  match o.settings w.disk w.env w.account with
  | .error fault =>
    { exit := 1, output := "", errors := errorText fault, disk := w.disk, site := w.site }
  | .ok s =>
    match Survey.ofSettings s { w.site with proxies := .ofEnvironment w.env } with
    | (.error fault, site) =>
      { exit := 1, output := "", errors := errorText fault, disk := w.disk, site }
    | (.ok survey, site) =>
      let (notices, disk) := fillAll (survey.destinations s.output w.time) w.disk
      { exit := 0, output := survey.display ++ notices, errors := "", disk, site }

def run (words : List String) (w : Surroundings) : Outcome :=
  match Request.ofWords? words with
  | none => { exit := 2, output := "", errors := usageText, disk := w.disk, site := w.site }
  | some .version =>
    { exit := 0, output := versionText, errors := "", disk := w.disk, site := w.site }
  | some (.survey options) => options.run w

end TokenSurvey.Command
