import TokenSurvey.Command.Layering
import TokenSurvey.Counter.Registry
import TokenSurvey.Proofs.Settings.Layer

/-! Settings field by field: each comes from the topmost layer that gives it. They come about if the
file can be read and no variable holds what cannot be read, whatever ranks above it. -/
namespace TokenSurvey

open Service (Site)
open Settings (Environment Layer firstKey keyVariable readNumber readSizes)
open Storage (Disk)

namespace Settings

theorem fromVariable_eq {α : Type} (env : Environment) (name : String)
    (read : String → String → Except Fault α) (current : α) :
    fromVariable env name read current =
      ((env name).mapM (read name)).map (·.getD current) := by
  rw [fromVariable]
  cases env name with
  | none => rfl
  | some value => cases h : read name value <;> simp [h, Except.map, Functor.map]

/-- Settings with what their variables hold, if all of it can be read. -/
theorem withEnvironment_eq_ok_iff {s s' : Settings} {env : Environment} :
    s.withEnvironment env = .ok s' ↔ ∃ sizes trials seed,
      (env "TOKEN_BENCH_SIZES").mapM (readSizes "TOKEN_BENCH_SIZES") = .ok sizes ∧
      (env "TOKEN_BENCH_TRIALS").mapM (readNumber "TOKEN_BENCH_TRIALS") = .ok trials ∧
      (env "TOKEN_BENCH_SEED").mapM (readNumber "TOKEN_BENCH_SEED") = .ok seed ∧
      s' = { s with
        run :=
          { sizes := sizes.getD s.run.sizes
            trials := trials.getD s.run.trials
            seed := seed.getD s.run.seed }
        access :=
          { s.access with baseUrl := (env "ANTHROPIC_BASE_URL").getD s.access.baseUrl } } := by
  simp only [withEnvironment, fromVariable_eq, Fault.bind_eq_ok_iff, Fault.map_eq_ok_iff]
  constructor
  · rintro ⟨_, ⟨sizes, hsizes, rfl⟩, _, ⟨trials, htrials, rfl⟩, _, ⟨seed, hseed, rfl⟩, hs⟩
    exact ⟨sizes, trials, seed, hsizes, htrials, hseed, (Except.ok.inj hs).symm⟩
  · rintro ⟨sizes, trials, seed, hsizes, htrials, hseed, rfl⟩
    exact ⟨_, ⟨sizes, hsizes, rfl⟩, _, ⟨trials, htrials, rfl⟩, _, ⟨seed, hseed, rfl⟩, rfl⟩

/-- A key that says something. -/
def filled (key : Option String) : Option String := key.filter (· ≠ "")

@[simp] theorem firstKey_nil : firstKey [] = none := rfl

theorem firstKey_cons (key : Option String) (keys : List (Option String)) :
    firstKey (key :: keys) = (filled key).or (firstKey keys) := by
  cases key with
  | none => rfl
  | some key =>
    by_cases h : key = ""
    · rw [h]
      rfl
    · simp [firstKey, filled, Option.filter, h]

theorem exists_firstKey_iff (keys : List (Option String)) :
    (∃ key, firstKey keys = some key) ↔ ∃ key ≠ "", some key ∈ keys := by
  rw [firstKey, ← Option.isSome_iff_exists, List.find?_isSome]
  simp [and_comm]

/-- A key that is chosen is never empty. -/
theorem ne_empty_of_firstKey {keys : List (Option String)} {key : String}
    (h : firstKey keys = some key) : key ≠ "" := by
  simpa using List.find?_some h

end Settings

/-- The service is asked exactly with a key that says something. -/
theorem Registry.mode_ofAccess_iff {a : Settings.Access} {site : Site} :
    ((ofAccess a site).counter .anthropic).mode = .live ↔ ∃ key ≠ "", a.apiKey = some key := by
  change (ofAccess a site).anthropic.mode = .live ↔ _
  rw [ofAccess]
  cases a.apiKey with
  | none => simp [Counter.mode]
  | some key => by_cases h : key = "" <;> simp [Option.filter, Counter.mode, h]

namespace Command.Options

variable {o : Options} {disk : Disk} {env : Environment} {account : Option String} {s : Settings}

/-- Settings come about from the file in effect and the layers above it. -/
theorem settings_eq_ok_iff :
    o.settings disk env account = .ok s ↔ ∃ file s',
      Layer.load? disk env account o.settingsFile = some file ∧
      file.settings.withEnvironment env = .ok s' ∧
      s = (o.override s').withKey o.apiKey (env keyVariable) := by
  simp only [settings, layered, Fault.bind_eq_ok_iff, Settings.load_eq_ok_iff]
  constructor
  · rintro ⟨_, ⟨file, hfile, rfl⟩, s', henv, hs⟩
    exact ⟨file, s', hfile, henv, (Except.ok.inj hs).symm⟩
  · rintro ⟨file, s', hfile, henv, rfl⟩
    exact ⟨_, ⟨file, hfile, rfl⟩, s', henv, rfl⟩

/-- Of the options only the name of a file has a say in whether settings come about. -/
theorem exists_settings_iff : (∃ s, o.settings disk env account = .ok s) ↔
    (∃ file, Settings.load disk env account o.settingsFile = .ok file) ∧
    (∃ sizes, (env "TOKEN_BENCH_SIZES").mapM (readSizes "TOKEN_BENCH_SIZES") = .ok sizes) ∧
    (∃ trials, (env "TOKEN_BENCH_TRIALS").mapM (readNumber "TOKEN_BENCH_TRIALS") = .ok trials) ∧
    (∃ seed, (env "TOKEN_BENCH_SEED").mapM (readNumber "TOKEN_BENCH_SEED") = .ok seed) := by
  constructor
  · rintro ⟨s, h⟩
    obtain ⟨file, s', hfile, henv, -⟩ := settings_eq_ok_iff.mp h
    obtain ⟨sizes, trials, seed, hsizes, htrials, hseed, -⟩ :=
      Settings.withEnvironment_eq_ok_iff.mp henv
    exact ⟨⟨_, Settings.load_eq_ok_iff.mpr ⟨file, hfile, rfl⟩⟩, ⟨_, hsizes⟩, ⟨_, htrials⟩, _, hseed⟩
  · rintro ⟨⟨_, hload⟩, ⟨sizes, hsizes⟩, ⟨trials, htrials⟩, seed, hseed⟩
    obtain ⟨file, hfile, rfl⟩ := Settings.load_eq_ok_iff.mp hload
    have henv := Settings.withEnvironment_eq_ok_iff (s := file.settings).mpr
      ⟨sizes, trials, seed, hsizes, htrials, hseed, rfl⟩
    exact ⟨_, settings_eq_ok_iff.mpr ⟨file, _, hfile, henv, rfl⟩⟩

theorem apiKey_of_settings {file : Layer} (h : o.settings disk env account = .ok s)
    (hfile : Layer.load? disk env account o.settingsFile = some file) :
    s.access.apiKey = firstKey [o.apiKey, file.access.apiKey, env keyVariable] := by
  obtain ⟨file', s', hfile', henv, rfl⟩ := settings_eq_ok_iff.mp h
  obtain rfl : file = file' := Option.some.inj (hfile.symm.trans hfile')
  obtain ⟨sizes, trials, seed, -, -, -, rfl⟩ := Settings.withEnvironment_eq_ok_iff.mp henv
  rfl

theorem settings_come_from_topmost_layer (o : Options) (disk : Disk) (env : Environment)
    (account : Option String) :
    ((∃ s, o.settings disk env account = .ok s) ↔
      (∃ file, Settings.load disk env account o.settingsFile = .ok file) ∧
      (∃ sizes, (env "TOKEN_BENCH_SIZES").mapM (readSizes "TOKEN_BENCH_SIZES") = .ok sizes) ∧
      (∃ trials, (env "TOKEN_BENCH_TRIALS").mapM (readNumber "TOKEN_BENCH_TRIALS") = .ok trials) ∧
      (∃ seed, (env "TOKEN_BENCH_SEED").mapM (readNumber "TOKEN_BENCH_SEED") = .ok seed)) ∧
    (∀ s, o.settings disk env account = .ok s ↔ ∃ file sizes trials seed,
      Layer.load? disk env account o.settingsFile = some file ∧
      (env "TOKEN_BENCH_SIZES").mapM (readSizes "TOKEN_BENCH_SIZES") = .ok sizes ∧
      (env "TOKEN_BENCH_TRIALS").mapM (readNumber "TOKEN_BENCH_TRIALS") = .ok trials ∧
      (env "TOKEN_BENCH_SEED").mapM (readNumber "TOKEN_BENCH_SEED") = .ok seed ∧
      s.run.sizes = (o.sizes.or (sizes.or file.run.sizes)).getD Settings.standard.run.sizes ∧
      s.run.trials = (o.trials.or (trials.or file.run.trials)).getD Settings.standard.run.trials ∧
      s.run.seed = (o.seed.or (seed.or file.run.seed)).getD Settings.standard.run.seed ∧
      s.access.baseUrl = (o.baseUrl.or ((env "ANTHROPIC_BASE_URL").or file.access.baseUrl)).getD
        Settings.standard.access.baseUrl ∧
      s.models.openAI = (o.openAIModels.or file.models.openAI).getD Settings.standard.models.openAI ∧
      s.models.anthropic =
        (o.anthropicModels.or file.models.anthropic).getD Settings.standard.models.anthropic ∧
      s.output.csv = o.csv.or file.output.csv ∧ s.output.json = o.json.or file.output.json ∧
      s.access.apiVersion = file.access.apiVersion.getD Settings.standard.access.apiVersion ∧
      s.access.timeoutSeconds = file.access.timeoutSeconds ∧
      s.access.apiKey = (Settings.filled o.apiKey).or
        ((Settings.filled file.access.apiKey).or (Settings.filled (env keyVariable)))) ∧
    (∀ s file site, o.settings disk env account = .ok s →
      Layer.load? disk env account o.settingsFile = some file →
      (((Registry.ofAccess s.access site).counter .anthropic).mode = .live ↔
        ∃ key ≠ "",
          o.apiKey = some key ∨ file.access.apiKey = some key ∨ env keyVariable = some key)) := by
  refine ⟨exists_settings_iff, ?_, ?_⟩
  · intro s
    rw [settings_eq_ok_iff]
    constructor
    · rintro ⟨file, s', hfile, henv, rfl⟩
      obtain ⟨sizes, trials, seed, hsizes, htrials, hseed, rfl⟩ :=
        Settings.withEnvironment_eq_ok_iff.mp henv
      refine ⟨file, sizes, trials, seed, hfile, hsizes, htrials, hseed, ?_⟩
      simp [override, Settings.withKey, Layer.settings, Settings.Run.Layer.settings,
        Settings.Models.Layer.settings, Settings.Access.Layer.settings, Settings.firstKey_cons,
        Option.getD_or]
    · rintro ⟨file, sizes, trials, seed, hfile, hsizes, htrials, hseed, fields⟩
      refine ⟨file, _, hfile, Settings.withEnvironment_eq_ok_iff.mpr
        ⟨sizes, trials, seed, hsizes, htrials, hseed, rfl⟩, ?_⟩
      obtain ⟨⟨_, _, _⟩, ⟨_, _⟩, ⟨_, _, _, _⟩, ⟨_, _⟩⟩ := s
      obtain ⟨rfl, rfl, rfl, rfl, rfl, rfl, rfl, rfl, rfl, rfl, rfl⟩ := fields
      simp [override, Settings.withKey, Layer.settings, Settings.Run.Layer.settings,
        Settings.Models.Layer.settings, Settings.Access.Layer.settings, Settings.firstKey_cons,
        Option.getD_or]
  · intro s file site h hfile
    have chosen := Settings.exists_firstKey_iff [o.apiKey, file.access.apiKey, env keyVariable]
    rw [Registry.mode_ofAccess_iff, apiKey_of_settings h hfile]
    constructor
    · rintro ⟨key, -, hkey⟩
      simpa [eq_comm] using chosen.mp ⟨key, hkey⟩
    · intro given
      obtain ⟨key, hkey⟩ := chosen.mpr (by simpa [eq_comm] using given)
      exact ⟨key, Settings.ne_empty_of_firstKey hkey, hkey⟩

/-- A key in the file below an empty one on the command line, sizes that rank above a variable,
and trials that a variable holds. -/
theorem settings_come_from_topmost_layer_mixed :
    let o : Options := { sizes := some [3], apiKey := some "", settingsFile := some "s" }
    let disk : Disk := { files := [
      (["s"], "[run]\ntrials=7\nseed=8\n[anthropic]\napi_key=\"k\"".toUTF8.toList)] }
    let env : Environment := fun name =>
      if name = "TOKEN_BENCH_SIZES" then some "1, 2"
      else if name = "TOKEN_BENCH_TRIALS" then some "2"
      else none
    let garbled : Environment := fun name => if name = "TOKEN_BENCH_SIZES" then some "x" else none
    (∀ s, o.settings disk garbled none ≠ .ok s) ∧
    ∃ s file, o.settings disk env none = .ok s ∧ Layer.load? disk env none o.settingsFile = some file ∧
      s.run = { sizes := [3], trials := 2, seed := 8 } ∧ s.access.apiKey = some "k" ∧
      ((Registry.ofAccess s.access .dark).counter .anthropic).mode = .live := by
  have loaded (env : Environment) : Layer.load?
      { files := [(["s"], "[run]\ntrials=7\nseed=8\n[anthropic]\napi_key=\"k\"".toUTF8.toList)] }
      env none (some "s") = some {
        run := { trials := some 7, seed := some 8 }
        access := { apiKey := some "k" } } := by
    have content : Layer.ofContent?
        "[run]\ntrials=7\nseed=8\n[anthropic]\napi_key=\"k\"".toUTF8.toList = some {
          run := { trials := some 7, seed := some 8 }
          access := { apiKey := some "k" } } := by
      decide +kernel
    exact content
  have sizes : (some "1, 2").mapM (readSizes "TOKEN_BENCH_SIZES") = .ok (some [1, 2]) := rfl
  have trials : (some "2").mapM (readNumber "TOKEN_BENCH_TRIALS") = .ok (some 2) := rfl
  have refused : (some "x").mapM (readSizes "TOKEN_BENCH_SIZES") =
      .error (.settings "TOKEN_BENCH_SIZES: x: invalid digit found in string") := rfl
  intro o disk env garbled
  have done : o.settings disk env none = .ok {
      run := { sizes := [3], trials := 2, seed := 8 }
      access := { apiKey := some "k" } } :=
    ((settings_come_from_topmost_layer o disk env none).2.1 _).mpr
      ⟨_, _, _, none, loaded env, sizes, trials, rfl, rfl, rfl, rfl, rfl, rfl, rfl, rfl, rfl, rfl,
        rfl, rfl⟩
  refine ⟨?_, _, _, done, loaded env, rfl, rfl, ?_⟩
  · intro s h
    obtain ⟨-, given, -, -, -, hsizes, -⟩ :=
      ((settings_come_from_topmost_layer o disk garbled none).2.1 s).mp h
    cases refused.symm.trans hsizes
  · exact ((settings_come_from_topmost_layer o disk env none).2.2 _ _ .dark done (loaded env)).mpr
      ⟨"k", by decide, .inr (.inl rfl)⟩

end Command.Options
end TokenSurvey
