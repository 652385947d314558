import TokenSurvey.Proofs.Command.Exports
import TokenSurvey.Proofs.Command.Layering
import TokenSurvey.Proofs.Counter.Secrecy

/-! Invocations that differ in their key alone differ in the key of their requests alone: what they
show, what they write and how they describe themselves is the same. -/
namespace TokenSurvey

open Dialogue
open Service (Client Proxies Site)
open Settings (Environment Layer firstKey keyVariable)
open Storage (Disk)

variable {key key' : String}

namespace Settings

/-- Settings with a key. -/
def keyed (s : Settings) (key : String) : Settings := { s with access := s.access.keyed key }

theorem describe_keyed (s : Settings) : (s.keyed key').describe = (s.keyed key).describe := rfl

/-- Variables leave the key in the settings alone; the one that holds a key is taken in later. -/
theorem apiKey_of_withEnvironment {s s' : Settings} {env : Environment}
    (h : s.withEnvironment env = .ok s') : s'.access.apiKey = s.access.apiKey := by
  obtain ⟨sizes, trials, seed, -, -, -, rfl⟩ := withEnvironment_eq_ok_iff.mp h
  rfl

theorem withEnvironment_congr {env env' : Environment}
    (h : ∀ name ≠ keyVariable, env' name = env name) (s : Settings) :
    s.withEnvironment env' = s.withEnvironment env := by
  simp only [withEnvironment, fromVariable]
  rw [h "TOKEN_BENCH_SIZES" (by decide), h "TOKEN_BENCH_TRIALS" (by decide),
    h "TOKEN_BENCH_SEED" (by decide), h "ANTHROPIC_BASE_URL" (by decide)]

/-- The key in the settings does not bear on what variables make of them. -/
theorem withEnvironment_with_apiKey (s : Settings) (given : Option String) (env : Environment) :
    withEnvironment { s with access := { s.access with apiKey := given } } env =
      (s.withEnvironment env).map fun s => { s with access := { s.access with apiKey := given } } := by
  simp only [withEnvironment]
  cases fromVariable env "TOKEN_BENCH_SIZES" readSizes s.run.sizes with
  | error => rfl
  | ok =>
    cases fromVariable env "TOKEN_BENCH_TRIALS" readNumber s.run.trials with
    | error => rfl
    | ok => cases fromVariable env "TOKEN_BENCH_SEED" readNumber s.run.seed <;> rfl

end Settings

namespace Command

/-- Two invocations that differ in the keys that they find, and so in the one that they use. -/
structure DifferInKey (key key' : String) (o o' : Options) (w w' : Surroundings) : Prop where
  options : ∃ given, o' = { o with apiKey := given }
  environments : ∀ name ≠ keyVariable, w'.env name = w.env name
  disks : w.disk.Alike w'.disk
  files : ∃ file given, Layer.load? w.disk w.env w.account o.settingsFile = some file ∧
    Layer.load? w'.disk w'.env w'.account o.settingsFile =
      some { file with access := { file.access with apiKey := given } } ∧
    firstKey [o.apiKey, file.access.apiKey, w.env keyVariable] = some key ∧
    firstKey [o'.apiKey, given, w'.env keyVariable] = some key'
  site : w'.site = w.site
  time : w'.time = w.time

/-- The key apart, settings do not depend on where a key was found. -/
theorem Options.settings_of_load? {o : Options} {disk : Disk} {env : Environment}
    {account : Option String} {file : Layer}
    (h : Layer.load? disk env account o.settingsFile = some file)
    (found : firstKey [o.apiKey, file.access.apiKey, env keyVariable] = some key) :
    o.settings disk env account =
      (file.settings.withEnvironment env).map fun s => (o.override s).keyed key := by
  have loaded := Settings.load_eq_ok_iff.mpr ⟨file, h, rfl⟩
  simp only [settings, loaded, layered, bind, Except.bind]
  cases hs : file.settings.withEnvironment env with
  | error fault => rfl
  | ok s =>
    have unchanged : (o.override s).access.apiKey = file.access.apiKey :=
      Settings.apiKey_of_withEnvironment hs
    simp only [pure, Except.pure, Except.map, Settings.withKey, unchanged, found]
    rfl

namespace DifferInKey

variable {o o' : Options} {w w' : Surroundings} (h : DifferInKey key key' o o' w w')

include h

theorem reached : w'.reached = w.reached := by
  have proxies : Proxies.ofEnvironment w'.env = Proxies.ofEnvironment w.env := by
    simp only [Proxies.ofEnvironment, Proxies.setting, List.findSome?_cons, List.findSome?_nil]
    rw [h.environments _ (by decide), h.environments "HTTP_PROXY" (by decide),
      h.environments "http_proxy" (by decide), h.environments "HTTPS_PROXY" (by decide),
      h.environments "https_proxy" (by decide), h.environments "ALL_PROXY" (by decide),
      h.environments "all_proxy" (by decide), h.environments "NO_PROXY" (by decide),
      h.environments "no_proxy" (by decide)]
  rw [Surroundings.reached, Surroundings.reached, h.site, proxies]

theorem settings : ∃ base : Except Fault Settings,
    o.settings w.disk w.env w.account = base.map (·.keyed key) ∧
    o'.settings w'.disk w'.env w'.account = base.map (·.keyed key') := by
  obtain ⟨given, rfl⟩ := h.options
  obtain ⟨file, given', loaded, loaded', found, found'⟩ := h.files
  refine ⟨(file.settings.withEnvironment w.env).map o.override, ?_, ?_⟩
  · rw [Options.settings_of_load? loaded found]
    cases file.settings.withEnvironment w.env <;> rfl
  · rw [Options.settings_of_load? (o := { o with apiKey := given }) loaded' found',
      Settings.withEnvironment_congr h.environments]
    have apart := Settings.withEnvironment_with_apiKey file.settings given' w.env
    refine (congrArg _ apart).trans ?_
    cases file.settings.withEnvironment w.env <;> rfl

theorem keys_ne_empty : key ≠ "" ∧ key' ≠ "" := by
  obtain ⟨file, given, -, -, found, found'⟩ := h.files
  exact ⟨Settings.ne_empty_of_firstKey found, Settings.ne_empty_of_firstKey found'⟩

end DifferInKey

/-- Surveys that differ in the key that their requests were made with. -/
structure Survey.Alike (key key' : String) (before : List Service.Request) (v v' : Survey) : Prop where
  plan : v'.plan = v.plan
  records : v'.records = v.records
  registry : v.registry.Alike key key' before v'.registry

theorem Survey.alike_done (s : Settings) (site : Site) (hkey : key ≠ "") (hkey' : key' ≠ "")
    (fits : Client.fitsHeader key = Client.fitsHeader key') :
    (done (s.keyed key) site).Alike key key' site.received (done (s.keyed key') site) := by
  have made := Registry.alike_ofAccess s.access site hkey hkey'
  obtain ⟨answers, asked⟩ := made.asked fits (Plan.ofSettings s).queries
  exact ⟨rfl, congrArg (·.map Sample.record) (Plan.samples_congr answers.symm), asked⟩

namespace Survey.Alike

variable {before : List Service.Request} {v v' : Survey} (h : v.Alike key key' before v')

include h

theorem fallbackNote : v'.fallbackNote = v.fallbackNote := by
  have anthropic : v.registry.anthropic.Alike key key' before v'.registry.anthropic :=
    h.registry .anthropic
  obtain ⟨none, none'⟩ | ⟨l, l', live, live', alike⟩ := anthropic.live?
  · rw [Survey.fallbackNote, Survey.fallbackNote, none, none']
  · simp only [Survey.fallbackNote, live, live', alike.answered, alike.fallbacks]

theorem display : v'.display = v.display := by
  rw [Survey.display, Survey.display, h.records, h.fallbackNote]

theorem sheet : v'.sheet = v.sheet := by
  funext name
  rw [Survey.sheet, Survey.sheet, h.records]

theorem document : v'.document = v.document := by
  funext time name
  have encodings (provider : Provider) (model : String) :=
    (h.registry provider).localEncoding model
  have bindings := h.registry.bindings
  simp only [Survey.document, Report.Document.ofRun, h.plan, h.records, bindings, encodings]

theorem destinations (output : Settings.Output) (time : Report.Timestamp) :
    v'.destinations output time = v.destinations output time := by
  rw [Survey.destinations, Survey.destinations, h.sheet, h.document]

end Survey.Alike

/-- What can be seen of a survey: its display, its sheet and its document under any name, the latter
at any time, and how its registry describes itself. -/
def Survey.seen (v : Survey) :
    String × (String → Destination) × (Report.Timestamp → String → Destination) × String :=
  (v.display, v.sheet, v.document, v.registry.describe)

/-- A survey comes about with either key or with neither, and is seen alike. -/
theorem Survey.seen_ofSettings (s : Settings) (site : Site) (hkey : key ≠ "") (hkey' : key' ≠ "")
    (fits : Client.fitsHeader key = Client.fitsHeader key') :
    (ofSettings (s.keyed key') site).1.map seen = (ofSettings (s.keyed key) site).1.map seen := by
  cases hd : s.run.defect? with
  | some defect =>
    have refused (k : String) :
        (ofSettings (s.keyed k) site).1 = .error (.invalidParameter defect.message) := by
      simp only [ofSettings, show (s.keyed k).run.defect? = some defect from hd]
    rw [refused, refused]
  | none =>
    have valid (k : String) : (Plan.ofSettings (s.keyed k)).Valid := Plan.valid_ofSettings_iff.mpr hd
    have alike := alike_done s site hkey hkey' fits
    have same : seen (done (s.keyed key') site) = seen (done (s.keyed key) site) := by
      simp only [seen, alike.display, alike.sheet, alike.document, alike.registry.describe]
    rw [ofSettings_of_valid (valid key), ofSettings_of_valid (valid key')]
    exact congrArg Except.ok same

/-- On disks that differ in contents alone the same is written and said. -/
theorem fillAll_alike (ds : List Destination) {disk disk' : Disk} (h : disk.Alike disk') :
    ∃ said written, fillAll ds disk = (said, disk.putAll written) ∧
      fillAll ds disk' = (said, disk'.putAll written) := by
  have same (d : Destination) := d.written?_said_congr (Disk.path?_of_alike h) h.device
  refine ⟨_, _, fillAll_eq ds disk, ?_⟩
  simp only [fillAll_eq, fun d => (same d).1, fun d => (same d).2]

/-- Two outcomes that differ in the key of the requests that were made. -/
structure Outcome.Alike (key key' : String) (w w' : Surroundings) (x x' : Outcome) : Prop where
  exit : x'.exit = x.exit
  output : x'.output = x.output
  errors : x'.errors = x.errors
  disk : ∃ written, x.disk = w.disk.putAll written ∧ x'.disk = w'.disk.putAll written
  received : ∃ sent : List Service.Request,
    x.site.received = w.site.received ++ sent.map (·.signed key) ∧
    x'.site.received = w.site.received ++ sent.map (·.signed key')

namespace DifferInKey

variable {o o' : Options} {w w' : Surroundings} (h : DifferInKey key key' o o' w w')
  (fits : Client.fitsHeader key = Client.fitsHeader key')

include h fits

theorem survey (s : Settings) : (Options.survey w (s.keyed key)).Alike key key' w.site.received
    (Options.survey w' (s.keyed key')) := by
  obtain ⟨hkey, hkey'⟩ := h.keys_ne_empty
  rw [Options.survey, Options.survey, h.reached]
  exact Survey.alike_done s w.reached hkey hkey' fits

theorem run : (o.run w).Alike key key' w w' (o'.run w') := by
  obtain ⟨base, given, given'⟩ := h.settings
  cases base with
  | error fault =>
    rw [Options.run_of_error given, Options.run_of_error given']
    exact ⟨rfl, rfl, rfl, ⟨[], rfl, rfl⟩, [], by simp, by simp [h.site]⟩
  | ok s =>
    -- Defects are in the sizes and the trials, so that both invocations have the same one.
    cases hd : s.run.defect? with
    | some defect =>
      rw [Options.run_of_defect given hd, Options.run_of_defect given' hd, h.reached]
      refine ⟨rfl, rfl, rfl, ⟨[], rfl, rfl⟩, [], ?_, ?_⟩ <;> simp [Surroundings.reached]
    | none =>
      have alike := h.survey fits s
      have requests := (alike.registry.siteAfter (s := w.reached) rfl).received
      obtain ⟨said, written, filled, filled'⟩ := fillAll_alike
        ((Options.survey w (s.keyed key)).destinations s.output w.time) h.disks
      rw [← alike.destinations, ← h.time] at filled'
      have output (k : String) : (s.keyed k).output = s.output := rfl
      have ran := Options.run_of_no_defect given hd
      have ran' := Options.run_of_no_defect given' hd
      simp only [output, filled] at ran
      simp only [output, filled', alike.display, h.reached] at ran'
      rw [ran, ran']
      exact ⟨rfl, rfl, rfl, ⟨written, rfl, rfl⟩, requests⟩

end DifferInKey

/-- Of two invocations with keys of their own, both of which can be sent or neither, nothing shows
which is which but the keys of their requests. A report is the same at any one time. -/
theorem key_stays_secret (words words' : List String) (o o' : Options) (w w' : Surroundings)
    (key key' : String) (asked : Request.ofWords? words = some (.survey o))
    (asked' : Request.ofWords? words' = some (.survey o'))
    (differ : DifferInKey key key' o o' w w')
    (fits : Client.fitsHeader key = Client.fitsHeader key') :
    let outcome := run words w
    let outcome' := run words' w'
    outcome'.exit = outcome.exit ∧ outcome'.output = outcome.output ∧
    outcome'.errors = outcome.errors ∧
    (∃ written, outcome.disk = w.disk.putAll written ∧ outcome'.disk = w'.disk.putAll written) ∧
    (∃ sent : List Service.Request,
      outcome.site.received = w.site.received ++ sent.map (·.signed key) ∧
      outcome'.site.received = w.site.received ++ sent.map (·.signed key')) ∧
    (o'.settings w'.disk w'.env w'.account).map Settings.describe =
      (o.settings w.disk w.env w.account).map Settings.describe ∧
    ∀ s s', o.settings w.disk w.env w.account = .ok s →
      o'.settings w'.disk w'.env w'.account = .ok s' →
      s.access.apiKey = some key ∧ s'.access.apiKey = some key' ∧
      (Survey.ofSettings s' w'.reached).1.map Survey.seen =
        (Survey.ofSettings s w.reached).1.map Survey.seen ∧
      (Client.ofAccess s'.access key').describe = (Client.ofAccess s.access key).describe ∧
      ∀ qs, ((Registry.ofAccess s'.access w'.reached).asked qs).describe =
        ((Registry.ofAccess s.access w.reached).asked qs).describe := by
  intro outcome outcome'
  have alike : outcome.Alike key key' w w' outcome' := by
    have ran : outcome = o.run w := run_of_survey asked
    have ran' : outcome' = o'.run w' := run_of_survey asked'
    rw [ran, ran']
    exact differ.run fits
  refine ⟨alike.exit, alike.output, alike.errors, alike.disk, alike.received, ?_⟩
  obtain ⟨base, given, given'⟩ := differ.settings
  rw [given, given']
  cases base with
  | error fault =>
    refine ⟨rfl, ?_⟩
    intro s s' h
    cases h
  | ok base =>
    refine ⟨congrArg Except.ok base.describe_keyed, ?_⟩
    rintro s s' ⟨⟩ ⟨⟩
    obtain ⟨hkey, hkey'⟩ := differ.keys_ne_empty
    rw [differ.reached]
    refine ⟨rfl, rfl, Survey.seen_ofSettings base w.reached hkey hkey' fits, rfl, fun qs => ?_⟩
    have made : (Registry.ofAccess (base.keyed key).access w.reached).Alike key key'
        w.reached.received (Registry.ofAccess (base.keyed key').access w.reached) :=
      Registry.alike_ofAccess base.access w.reached hkey hkey'
    exact (made.asked fits qs).2.describe

/-- A key on the command line and another one in a variable, at a service that breaks off. -/
theorem key_stays_secret_flag_and_variable :
    let options := ["--sizes", "1", "--trials", "1", "--openai-models", "--anthropic-models", "m",
      "--anthropic-base-url", "http://127.0.0.1:80", "--csv", "c"]
    let site : Site := { network := { answers := fun _ _ port => port = 80 } }
    let w : Surroundings := { env := fun _ => none, disk := {}, site, time := ⟨0, 0⟩ }
    let w' := { w with env := fun name => if name = keyVariable then some "b" else none }
    let flagged := options ++ ["--anthropic-api-key", "a"]
    (run options w').output = (run flagged w).output ∧
    (run options w').disk.files.lookup ["c"] = (run flagged w).disk.files.lookup ["c"] ∧
    ∃ request : Service.Request, (run flagged w).site.received = [request.signed "a"] ∧
      (run options w').site.received = [request.signed "b"] := by
  intro options site w w' flagged
  let o : Options := {
    sizes := some [1], trials := some 1, openAIModels := some [], anthropicModels := some ["m"]
    baseUrl := some "http://127.0.0.1:80", csv := some "c" }
  have read : Request.ofWords? options = some (.survey o) := by decide +kernel
  have read' : Request.ofWords? flagged = some (.survey { o with apiKey := some "a" }) := by
    decide +kernel
  have differ : DifferInKey "a" "b" { o with apiKey := some "a" } o w w' := by
    refine ⟨⟨none, rfl⟩, ?_, ⟨rfl, rfl, rfl, rfl⟩, ⟨{}, none, rfl, rfl, by decide, by decide⟩, rfl, rfl⟩
    intro name h
    exact if_neg h
  obtain ⟨-, output, -, ⟨written, disk, disk'⟩, ⟨sent, received, received'⟩, -⟩ :=
    key_stays_secret flagged options _ _ w w' "a" "b" read' read differ (by decide)
  have one : sent.length = 1 := by
    have length : (run flagged w).site.received.length = 1 := by decide +kernel
    rw [received] at length
    simpa [w, site] using length
  obtain ⟨request, rfl⟩ := List.length_eq_one_iff.mp one
  exact ⟨output, by rw [disk, disk'], request, received, received'⟩

end Command
end TokenSurvey
