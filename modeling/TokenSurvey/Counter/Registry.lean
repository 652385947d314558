import TokenSurvey.Counter.Basic

/-! The counter bound to each provider. -/
namespace TokenSurvey

structure Registry where
  openAI : Counter
  anthropic : Counter

namespace Registry

open Service

/-- The encoding that stands in for counts that only the service knows. -/
def approximation : Encoding := .cl100k

/-- With a key that is not empty the service is asked at a site; without one it is approximated. -/
def ofAccess (a : Settings.Access) (site : Site) : Registry where
  openAI := .perModel
  anthropic :=
    match a.apiKey.filter (· ≠ "") with
    | some key =>
      .live { responder := .client (Client.ofAccess a key) site, fallback := approximation }
    | none => .fixed approximation

def offline : Registry := ofAccess {} Site.dark

def counter (r : Registry) : Provider → Counter
  | .openAI => r.openAI
  | .anthropic => r.anthropic

def bind (r : Registry) (p : Provider) (c : Counter) : Registry :=
  match p with
  | .openAI => { r with openAI := c }
  | .anthropic => { r with anthropic := c }

@[simp] theorem counter_bind_self (r : Registry) (p : Provider) (c : Counter) :
    (r.bind p c).counter p = c := by
  cases p <;> rfl

theorem counter_bind_of_ne (r : Registry) {p q : Provider} (c : Counter) (h : q ≠ p) :
    (r.bind p c).counter q = r.counter q := by
  cases p <;> cases q <;> first | rfl | exact (h rfl).elim

/-- Counts by the counter of a provider, which alone may change. -/
def count (p : Provider) (model text : String) : StateM Registry Nat := fun r =>
  let (n, c) := (r.counter p).count model text
  (n, r.bind p c)

/-- What has become of a site that the service was perhaps asked at. -/
def siteAfter (r : Registry) (site : Site) : Site :=
  (r.anthropic.live?.bind fun l => l.responder.site?).getD site

def bindings (r : Registry) : List (Provider × Mode) := Provider.all.map fun p => (p, (r.counter p).mode)

open Text.Description in
def describe (r : Registry) : String :=
  record "CounterRegistry"
    [("openai", r.openAI.describe), ("anthropic", r.anthropic.describe)]

end Registry
end TokenSurvey
