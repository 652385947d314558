/-! What can go wrong in a survey, and how each fault reads. -/
namespace TokenSurvey

inductive Fault where
  | emptySample
  | invalidParameter (detail : String)
  | settings (detail : String)
  | network (detail : String)
  | rejected (status : Nat) (body : String)
  | malformedResponse (detail : String)
  | csv (detail : String)
  | json (detail : String)
  | io (detail : String)
  deriving DecidableEq

namespace Fault

def message : Fault → String
  | emptySample => "Empty sample: cannot summarize zero token counts"
  | invalidParameter detail => "Invalid parameter: " ++ detail
  | settings detail => "Config error: " ++ detail
  | network detail => "Network error: " ++ detail
  | rejected status body => "Upstream error (" ++ toString status ++ "): " ++ body
  | malformedResponse detail => "Malformed response: " ++ detail
  | csv detail => "CSV error: " ++ detail
  | json detail => "JSON error: " ++ detail
  | io detail => "IO error: " ++ detail

/-- A precondition fault is the caller's and ends a run before anything is measured. -/
def isPrecondition : Fault → Bool
  | emptySample | invalidParameter _ => true
  | _ => false

variable {α β : Type} {x : Except Fault α} {b : β}

/-- A step succeeds after a step that succeeds. -/
theorem bind_eq_ok_iff {f : α → Except Fault β} :
    (x >>= f) = .ok b ↔ ∃ a, x = .ok a ∧ f a = .ok b := by
  cases x <;> simp [bind, Except.bind]

/-- A fault is the first step's, or the second's after the first. -/
theorem bind_eq_error_iff {f : α → Except Fault β} {fault : Fault} :
    (x >>= f) = .error fault ↔ x = .error fault ∨ ∃ a, x = .ok a ∧ f a = .error fault := by
  cases x <;> simp [bind, Except.bind]

theorem map_eq_ok_iff {f : α → β} : x.map f = .ok b ↔ ∃ a, x = .ok a ∧ f a = b := by
  cases x <;> simp [Except.map]

end Fault
end TokenSurvey
