import TokenSurvey.Proofs.Command.Survey

/-! The books of a live counter: after any history they hold the calls that the service answered
and those that fell back, which together are all the calls it was ever asked. -/
namespace TokenSurvey

open Dialogue
open Service (Outcome)

namespace LiveCounter

theorem answered_ask (q : Query) (l : LiveCounter) :
    (ask q l).2.answered =
      if (Responder.call q l.responder).1.isOk then tick l.answered else l.answered := by
  simp only [ask, count, Responder.call]
  split <;> simp_all [Except.isOk, Except.toBool]

theorem fallbacks_ask (q : Query) (l : LiveCounter) :
    (ask q l).2.fallbacks =
      if !(Responder.call q l.responder).1.isOk then tick l.fallbacks else l.fallbacks := by
  simp only [ask, count, Responder.call]
  split <;> simp_all [Except.isOk, Except.toBool]

/-- A book that ticks at some outcomes holds their number, as long as it fits a word. -/
theorem book_after {book : LiveCounter → Nat} {P : Outcome → Bool}
    (step : ∀ q l, book (ask q l).2 =
      if P (Responder.call q l.responder).1 then tick (book l) else book l)
    (qs : List Query) {l : LiveCounter}
    (h : book l + (l.responder.outcomes qs).countP P < UInt64.size) :
    book (after ask qs l) = book l + (l.responder.outcomes qs).countP P := by
  induction qs generalizing l with
  | nil => simp
  | cons q qs ih =>
    rw [Responder.outcomes_cons, ← responder_ask, List.countP_cons] at h ⊢
    rw [after_cons]
    by_cases hP : P (Responder.call q l.responder).1
    · rw [if_pos hP] at h ⊢
      have ticked : book (ask q l).2 = book l + 1 := by
        rw [step, if_pos hP, tick, Nat.mod_eq_of_lt (by omega)]
      rw [ih (by omega), ticked]
      omega
    · rw [if_neg hP] at h ⊢
      have kept : book (ask q l).2 = book l := by rw [step, if_neg hP]
      rw [ih (by omega), kept]
      omega

/-- No call has been made yet. -/
def Fresh (l : LiveCounter) : Prop := l.answered = 0 ∧ l.fallbacks = 0

variable {l : LiveCounter} {qs : List Query}

theorem book_after_of_zero {book : LiveCounter → Nat} {P : Outcome → Bool}
    (step : ∀ q l, book (ask q l).2 =
      if P (Responder.call q l.responder).1 then tick (book l) else book l)
    (hl : book l = 0) (h : qs.length < UInt64.size) :
    book (after ask qs l) = (l.responder.outcomes qs).countP P := by
  have bound : (l.responder.outcomes qs).countP P ≤ qs.length := by
    rw [← l.responder.length_outcomes qs]
    exact List.countP_le_length
  rw [book_after step qs (by omega), hl, Nat.zero_add]

theorem answered_after (hl : l.Fresh) (h : qs.length < UInt64.size) :
    (after ask qs l).answered = (l.responder.outcomes qs).countP (·.isOk) :=
  book_after_of_zero answered_ask hl.1 h

theorem fallbacks_after (hl : l.Fresh) (h : qs.length < UInt64.size) :
    (after ask qs l).fallbacks = (l.responder.outcomes qs).countP (!·.isOk) :=
  book_after_of_zero fallbacks_ask hl.2 h

/-- Every call is in one of the two books. -/
theorem answered_add_fallbacks_after (hl : l.Fresh) (h : qs.length < UInt64.size) :
    (after ask qs l).answered + (after ask qs l).fallbacks = qs.length := by
  rw [answered_after hl h, fallbacks_after hl h, ← l.responder.length_outcomes qs,
    List.length_eq_countP_add_countP (fun o => o.isOk)]
  simp

end LiveCounter

/-- A run leaves a registry as its queries do, and a plan that is refused as it was. -/
theorem Plan.run_state (p : Plan) (r : Registry) :
    (p.run Registry.count r).2 = r.asked (if p.Valid then p.queries else []) := by
  by_cases h : p.Valid
  · rw [run_of_valid _ h, if_pos h]
    rfl
  · obtain ⟨detail, hd⟩ := check_of_not_valid h
    rw [run_of_error hd, if_neg h]
    rfl

/-- What can be done with a registry after it was made. -/
inductive Operation where
  | count (provider : Provider) (model text : String)
  | run (p : Plan)
  | summarize (p : Plan)
  | mode (provider : Provider)
  | localEncoding (provider : Provider) (model : String)
  | bindings

namespace Operation

inductive Result where
  | count (n : Nat)
  | samples (samples : Except Fault (List Sample))
  | records (records : Except Fault (List Record))
  | mode (m : Mode)
  | encoding (e : Encoding)
  | bindings (bs : List (Provider × Mode))

def perform : Operation → StateM Registry Result
  | count provider model text => do pure (.count (← Registry.count provider model text))
  | run p => fun r =>
    let (samples, r) := p.run Registry.count r
    (.samples samples, r)
  | summarize p => fun r =>
    let (records, r) := p.summarize Registry.count r
    (.records records, r)
  | mode provider => do pure (.mode ((← get).counter provider).mode)
  | localEncoding provider model => do
    pure (.encoding (((← get).counter provider).localEncoding model))
  | bindings => do pure (.bindings (← get).bindings)

/-- What an operation asks the counters: nothing, if it only looks or if its plan is refused. -/
def queries : Operation → List Query
  | count provider model text => [⟨provider, model, text⟩]
  | run p | summarize p => if p.Valid then p.queries else []
  | mode _ | localEncoding _ _ | bindings => []

theorem perform_state (op : Operation) (r : Registry) :
    (op.perform r).2 = r.asked op.queries := by
  cases op with
  | count provider model text => rw [Registry.asked, queries, after_cons]; rfl
  | run p | summarize p => exact Plan.run_state p r
  | mode | localEncoding | bindings => rfl

/-- A history leaves a registry as its queries do. -/
theorem after_perform (ops : List Operation) (r : Registry) :
    after perform ops r = r.asked (ops.flatMap queries) := by
  induction ops generalizing r with
  | nil => rfl
  | cons op ops ih =>
    rw [after_cons, ih, perform_state, List.flatMap_cons, Registry.asked, Registry.asked,
      Registry.asked, after_append]

end Operation

/-- A registry is made with empty books. -/
theorem Registry.fresh_of_ofAccess {a : Settings.Access} {site : Service.Site} {l : LiveCounter}
    (h : (ofAccess a site).anthropic = .live l) : l.Fresh := by
  rw [ofAccess] at h
  dsimp only at h
  split at h
  · obtain rfl := Counter.live.inj h
    exact ⟨rfl, rfl⟩
  · cases h

open Command (Survey)

/-- The books of a survey that is done hold one call for each size, model and trial. -/
theorem Command.Survey.fallbacks_add_answered_done {s : Settings} {site : Service.Site}
    {l : LiveCounter} (h : (done s site).registry.anthropic = .live l)
    (bound : s.run.sizes.length * s.models.anthropic.length * s.run.trials < UInt64.size) :
    l.fallbacks + l.answered =
      s.run.sizes.length * s.models.anthropic.length * s.run.trials := by
  have length : ((Plan.ofSettings s).queriesTo .anthropic).length =
      s.run.sizes.length * s.models.anthropic.length * s.run.trials := by
    rw [Plan.length_queriesTo, Plan.modelCount_ofSettings]
    rfl
  change ((Registry.ofAccess s.access site).asked _).counter .anthropic = _ at h
  cases made : (Registry.ofAccess s.access site).counter .anthropic with
  | live fresh =>
    rw [Registry.counter_asked_of_live made] at h
    obtain rfl := Counter.live.inj h
    rw [← length] at bound
    rw [Nat.add_comm, ← length]
    exact LiveCounter.answered_add_fallbacks_after (Registry.fresh_of_ofAccess made) bound
  | perModel | fixed =>
    rw [Registry.counter_asked_of_not_live (by simp [made, Counter.mode]), made] at h
    cases h

theorem history_balances (r : Registry) (provider : Provider) (l : LiveCounter)
    (hl : r.counter provider = .live l) (hfresh : l.Fresh) :
    (∀ ops : List Operation,
      let calls := (ops.flatMap Operation.queries).filter (·.provider = provider)
      let outcomes := l.responder.outcomes calls
      calls.length < UInt64.size → ∃ l',
        (after Operation.perform ops r).counter provider = .live l' ∧
        l'.responder = after Responder.call calls l.responder ∧
        l'.answered = outcomes.countP (·.isOk) ∧ l'.fallbacks = outcomes.countP (!·.isOk) ∧
        l'.answered + l'.fallbacks = calls.length) ∧
    (∀ (op : Operation) (r : Registry), op.queries = [] → (op.perform r).2 = r) ∧
    (∀ p : Plan, p.Valid →
      let total := p.sizes.length * p.modelCount provider * p.trials
      total < UInt64.size → ∃ l',
        (p.run Registry.count r).2.counter provider = .live l' ∧
        l'.answered + l'.fallbacks = total) ∧
    (∀ (s : Settings) (site : Service.Site) (v : Survey) (l' : LiveCounter),
      (Survey.ofSettings s site).1 = .ok v → v.registry.anthropic = .live l' →
      let total := s.run.sizes.length * s.models.anthropic.length * s.run.trials
      total < UInt64.size →
      v.fallbackNote = if l'.fallbacks = 0 then "" else
        "\nNote: " ++ toString l'.fallbacks ++ " of " ++ toString total ++
          " Anthropic counts fell back to the cl100k_base approximation\n") := by
  refine ⟨?_, ?_, ?_, ?_⟩
  · intro ops calls outcomes hcalls
    refine ⟨after LiveCounter.ask calls l, ?_, LiveCounter.responder_after calls l,
      LiveCounter.answered_after hfresh hcalls, LiveCounter.fallbacks_after hfresh hcalls,
      LiveCounter.answered_add_fallbacks_after hfresh hcalls⟩
    rw [Operation.after_perform]
    exact Registry.counter_asked_of_live hl _
  · intro op r h
    rw [Operation.perform_state, h]
    rfl
  · intro p hp total htotal
    have length : (p.queriesTo provider).length = total := p.length_queriesTo provider
    refine ⟨after LiveCounter.ask (p.queriesTo provider) l, ?_, ?_⟩
    · rw [Plan.run_of_valid _ hp]
      exact Registry.counter_asked_of_live hl _
    · rw [← length]
      exact LiveCounter.answered_add_fallbacks_after hfresh (by omega)
  · intro s site v l' hv hl' total htotal
    obtain rfl := Survey.eq_done_of_ofSettings hv
    have sum : l'.fallbacks + l'.answered = total :=
      Survey.fallbacks_add_answered_done hl' htotal
    rw [Survey.fallbackNote, hl', Counter.live?, ← sum]

/-- A direct count, a look, a refused plan and a run that lists the model twice; and a survey of
the command line. -/
theorem history_balances_mixed :
    let l : LiveCounter := {
      responder := .script [.ok 5, .error .emptySample], fallback := .cl100k }
    let r : Registry := { openAI := .perModel, anthropic := .live l }
    let p : Plan := {
      sizes := [2], trials := 2, seed := 1
      groups := [(.anthropic, ["claude"]), (.openAI, ["gpt-4"]), (.anthropic, ["claude"])] }
    let ops : List Operation := [.count .anthropic "claude" "lorem", .bindings,
      .run { p with trials := 0 }, .summarize p]
    let s : Settings := {
      run := { sizes := [2], trials := 3 }, models := { anthropic := ["claude"] }
      access := { apiKey := some "key" } }
    r.counter .anthropic = .live l ∧ l.Fresh ∧ p.Valid ∧
    (∃ l', (after Operation.perform ops r).counter .anthropic = .live l' ∧
      l'.answered + l'.fallbacks = 5) ∧
    (∃ l', (p.run Registry.count r).2.counter .anthropic = .live l' ∧
      l'.answered + l'.fallbacks = 4) ∧
    ∃ v l', (Survey.ofSettings s .dark).1 = .ok v ∧ v.registry.anthropic = .live l' ∧
      v.fallbackNote = if l'.fallbacks = 0 then "" else
        "\nNote: " ++ toString l'.fallbacks ++ " of " ++ toString 3 ++
          " Anthropic counts fell back to the cl100k_base approximation\n" := by
  intro l r p ops s
  have valid : p.Valid := by decide
  have refused : ¬ { p with trials := 0 : Plan }.Valid := by decide
  have length : (p.queriesTo .anthropic).length = 4 := by
    rw [Plan.length_queriesTo]
    decide
  have asked : ops.flatMap Operation.queries =
      ⟨.anthropic, "claude", "lorem"⟩ :: p.queries := by
    simp [ops, Operation.queries, valid, refused]
  obtain ⟨history, -, run, survey⟩ := history_balances r .anthropic l rfl ⟨rfl, rfl⟩
  have calls : ((ops.flatMap Operation.queries).filter (·.provider = .anthropic)).length = 5 := by
    rw [asked, List.filter_cons_of_pos (by rfl), List.length_cons, ← Plan.queriesTo, length]
  obtain ⟨l₁, hl₁, -, -, -, sum₁⟩ := history ops (by rw [calls]; decide)
  obtain ⟨l₂, hl₂, sum₂⟩ := run p valid (by decide)
  have ready : (Plan.ofSettings s).Valid := by decide
  have done : (Survey.ofSettings s .dark).1 = .ok (.done s .dark) := by
    rw [Survey.ofSettings_of_valid ready]
  have made : (Registry.ofAccess s.access .dark).counter .anthropic = .live {
      responder := .client (Service.Client.ofAccess s.access "key") .dark
      fallback := Registry.approximation } := rfl
  have live := Registry.counter_asked_of_live made (Plan.ofSettings s).queries
  exact ⟨rfl, ⟨rfl, rfl⟩, valid, ⟨l₁, hl₁, sum₁.trans calls⟩, ⟨l₂, hl₂, sum₂⟩,
    .done s .dark, _, done, live, survey s .dark _ _ done live (by decide)⟩

end TokenSurvey
