import TokenSurvey.Command.Invocation
import TokenSurvey.Proofs.Command.Survey

/-! An invocation succeeds exactly when its settings come about and are in order. One that fails has
shown nothing, asked nothing and written nothing. -/
namespace TokenSurvey.Command

open Service (Proxies Site)

/-- The site as an invocation asks it, through the proxies that variables name. -/
def Surroundings.reached (w : Surroundings) : Site := { w.site with proxies := .ofEnvironment w.env }

namespace Options

variable {o : Options} {w : Surroundings} {s : Settings}

theorem run_of_error {fault : Fault} (h : o.settings w.disk w.env w.account = .error fault) :
    o.run w =
      { exit := 1, output := "", errors := errorText fault, disk := w.disk, site := w.site } := by
  simp only [run, h]

theorem run_of_defect {defect : Settings.Defect} (h : o.settings w.disk w.env w.account = .ok s)
    (hd : s.run.defect? = some defect) : o.run w =
      { exit := 1, output := "", errors := errorText (.invalidParameter defect.message),
        disk := w.disk, site := w.reached } := by
  simp only [run, h, Survey.ofSettings, hd]
  rfl

/-- The survey of an invocation that succeeds. -/
def survey (w : Surroundings) (s : Settings) : Survey := .done s w.reached

theorem run_of_no_defect (h : o.settings w.disk w.env w.account = .ok s)
    (sound : s.run.defect? = none) :
    o.run w =
      let v := survey w s
      let (notices, disk) := fillAll (v.destinations s.output w.time) w.disk
      { exit := 0, output := v.display ++ notices, errors := "", disk,
        site := v.registry.siteAfter w.reached } := by
  have done : Survey.ofSettings s w.reached =
      (.ok (survey w s), (survey w s).registry.siteAfter w.reached) :=
    Survey.ofSettings_of_valid (Plan.valid_ofSettings_iff.mpr sound)
  simp only [run, h]
  rw [← Surroundings.reached, done]

/-- Of the three ends of an invocation, only settings in order are a success. -/
theorem exit_run_eq_zero_iff :
    (o.run w).exit = 0 ↔
      ∃ s, o.settings w.disk w.env w.account = .ok s ∧ s.run.defect? = none := by
  cases h : o.settings w.disk w.env w.account with
  | error fault => simp [run_of_error h]
  | ok s =>
    cases hd : s.run.defect? with
    | none => simp [run_of_no_defect h hd, hd]
    | some defect => simp [run_of_defect h hd, hd]

theorem run_of_exit_ne_zero (h : (o.run w).exit ≠ 0) :
    (o.run w).output = "" ∧ (o.run w).disk = w.disk ∧
      (o.run w).site.received = w.site.received ∧ (o.run w).site.replies = w.site.replies := by
  cases hs : o.settings w.disk w.env w.account with
  | error fault => simp [run_of_error hs]
  | ok s =>
    cases hd : s.run.defect? with
    | none => simp [run_of_no_defect hs hd] at h
    | some defect => simp [run_of_defect hs hd, Surroundings.reached]

end Options

theorem run_of_survey {words : List String} {o : Options} {w : Surroundings}
    (h : Request.ofWords? words = some (.survey o)) : run words w = o.run w := by
  simp only [run, h]

theorem failed_invocation_has_no_effect (words : List String) (w : Surroundings) :
    let outcome := run words w
    (outcome.exit ≠ 0 → outcome.output = "" ∧ outcome.disk = w.disk ∧
      outcome.site.received = w.site.received ∧ outcome.site.replies = w.site.replies) ∧
    (∀ o, Request.ofWords? words = some (.survey o) →
      (outcome.exit = 0 ↔
        ∃ s, o.settings w.disk w.env w.account = .ok s ∧ s.run.defect? = none)) ∧
    ∀ (s : Settings) (r : Registry), s.run.defect? = none → ∃ samples records r',
      (Plan.ofSettings s).run Registry.count r = (.ok samples, r') ∧
      (Plan.ofSettings s).summarize Registry.count r = (.ok records, r') := by
  intro outcome
  refine ⟨?_, ?_, ?_⟩
  · intro failed
    cases h : Request.ofWords? words with
    | none => simp [outcome, run, h]
    | some request =>
      cases request with
      | version => simp [outcome, run, h] at failed
      | survey o =>
        have same : outcome = o.run w := run_of_survey h
        rw [same] at failed ⊢
        exact Options.run_of_exit_ne_zero failed
  · intro o h
    have same : outcome = o.run w := run_of_survey h
    rw [same]
    exact Options.exit_run_eq_zero_iff
  · intro s r h
    have valid := Plan.valid_ofSettings_iff.mpr h
    exact ⟨_, _, _, Plan.run_of_valid _ valid r, Plan.summarize_of_valid _ valid r⟩

/-- Sizes that hold a zero on the command line, and the same sizes without it. -/
theorem failed_invocation_has_no_effect_zero_size :
    let w : Surroundings := { env := fun _ => none, disk := {}, site := .dark, time := ⟨0, 0⟩ }
    let zero := ["--sizes", "3", "0", "--csv", "a"]
    let sound := ["--sizes", "3", "--csv", "a"]
    (∃ o, Request.ofWords? zero = some (.survey o)) ∧
    (∃ o, Request.ofWords? sound = some (.survey o)) ∧
    (run zero w).exit ≠ 0 ∧ (run zero w).output = "" ∧ (run zero w).disk = w.disk ∧
    (run sound w).exit = 0 := by
  intro w zero sound
  have readZero : Request.ofWords? zero =
      some (.survey { sizes := some [3, 0], csv := some "a" }) := by decide +kernel
  have readSound : Request.ofWords? sound =
      some (.survey { sizes := some [3], csv := some "a" }) := by decide +kernel
  obtain ⟨unchanged, ends, -⟩ := failed_invocation_has_no_effect zero w
  obtain ⟨-, ends', -⟩ := failed_invocation_has_no_effect sound w
  have failed : (run zero w).exit ≠ 0 := by
    rw [ne_eq, ends _ readZero]
    rintro ⟨s, hs, sound⟩
    obtain rfl := Except.ok.inj hs
    exact absurd sound (by decide)
  obtain ⟨nothing, untouched, -⟩ := unchanged failed
  refine ⟨⟨_, readZero⟩, ⟨_, readSound⟩, failed, nothing, untouched, ?_⟩
  exact (ends' _ readSound).mpr ⟨_, rfl, by decide⟩

end TokenSurvey.Command
