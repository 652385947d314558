import TokenSurvey.Command.Survey
import TokenSurvey.Proofs.Counter.Separation
import TokenSurvey.Proofs.Plan.Summary
import TokenSurvey.Proofs.Plan.Turns

/-! A survey of settings in order always comes about; of others none does, and nothing is asked. -/
namespace TokenSurvey

open Service (Site)

namespace Plan

theorem valid_ofSettings_iff {s : Settings} : (Plan.ofSettings s).Valid ↔ s.run.defect? = none :=
  Settings.Run.defect?_eq_none_iff.symm

theorem modelCount_ofSettings (s : Settings) :
    (Plan.ofSettings s).modelCount .anthropic = s.models.anthropic.length := by
  simp [modelCount, ofSettings, Settings.groups]

end Plan

namespace Command.Survey

/-- The survey of settings in order. -/
def done (s : Settings) (site : Site) : Survey where
  plan := Plan.ofSettings s
  registry := (Registry.ofAccess s.access site).asked (Plan.ofSettings s).queries
  records := ((Plan.ofSettings s).samples Registry.count (Registry.ofAccess s.access site)).map
    Sample.record

variable {s : Settings} {site : Site}

theorem ofSettings_of_valid (h : (Plan.ofSettings s).Valid) :
    ofSettings s site = (.ok (done s site), (done s site).registry.siteAfter site) := by
  simp only [ofSettings, Plan.valid_ofSettings_iff.mp h, Plan.summarize_of_valid _ h]
  rfl

theorem ofSettings_of_not_valid (h : ¬ (Plan.ofSettings s).Valid) :
    ∃ detail, ∀ site, ofSettings s site = (.error (.invalidParameter detail), site) := by
  cases hd : s.run.defect? with
  | none => exact (h (Plan.valid_ofSettings_iff.mpr hd)).elim
  | some defect => exact ⟨defect.message, fun site => by simp only [ofSettings, hd]⟩

theorem eq_done_of_ofSettings {v : Survey} (h : (ofSettings s site).1 = .ok v) :
    v = done s site := by
  by_cases valid : (Plan.ofSettings s).Valid
  · rw [ofSettings_of_valid valid] at h
    exact (Except.ok.inj h).symm
  · obtain ⟨detail, hd⟩ := ofSettings_of_not_valid valid
    rw [hd] at h
    cases h

end Command.Survey
end TokenSurvey
