import TokenSurvey.Proofs.Counter.Separation
import TokenSurvey.Proofs.Plan.Summary
import TokenSurvey.Proofs.Plan.Turns

/-! A live counter beside the fixed counter of its fallback: the two differ at the calls that the
service answers, and nowhere else. -/
namespace TokenSurvey

open Dialogue

variable {r : Registry} {provider : Provider} {l : LiveCounter} {qs : List Query}

namespace Registry

/-- What is bound to one provider does not bear on another one's counter. -/
theorem counter_asked_bind_of_ne {q : Provider} (h : q ≠ provider) (c c' : Counter) :
    ((r.bind provider c).asked qs).counter q = ((r.bind provider c').asked qs).counter q := by
  rw [counter_asked, counter_asked, counter_bind_of_ne r c h, counter_bind_of_ne r c' h]

/-- The answer to one query with a live counter, and with the fixed counter of its fallback. -/
theorem getElem?_answers_live (r : Registry) (provider : Provider) (l : LiveCounter) {c : Nat}
    {q : Query} (hq : qs[c]? = some q) :
    ∃ m n, (answers (Tally.ask count) qs (r.bind provider (.live l)))[c]? = some m ∧
      (answers (Tally.ask count) qs (r.bind provider (.fixed l.fallback)))[c]? = some n ∧
      (q.provider ≠ provider → m = n) ∧
      (q.provider = provider → ∃ outcome,
        (l.responder.outcomes (qs.filter (·.provider = provider)))[
          (qs.take c).countP (·.provider = provider)]? = some outcome ∧
        m = outcome.toOption.getD n) := by
  by_cases own : q.provider = provider
  · subst own
    obtain ⟨outcome, houtcome, hm⟩ :=
      getElem?_answers_of_live (counter_bind_self r q.provider (.live l)) hq
    have fixed : ((r.bind q.provider (.fixed l.fallback)).counter q.provider).mode ≠ .live := by
      simp [Counter.mode]
    have hn := getElem?_answers_of_not_live fixed hq
    rw [counter_bind_self, Counter.localEncoding] at hn
    exact ⟨_, _, hm, hn, fun other => (other rfl).elim, fun _ => ⟨outcome, houtcome, rfl⟩⟩
  · have hm := getElem?_answers_count (r.bind provider (.live l)) qs c
    have hn := getElem?_answers_count (r.bind provider (.fixed l.fallback)) qs c
    rw [hq, Option.map_some] at hm hn
    refine ⟨_, _, hm, hn, ?_, fun h => (own h).elim⟩
    intro h
    rw [counter_asked_bind_of_ne h]

/-- A service that fails at every call leaves only the answers of its fallback. -/
theorem answers_live_of_failing
    (h : ∀ outcome ∈ l.responder.outcomes (qs.filter (·.provider = provider)),
      outcome.isOk = false) :
    answers (Tally.ask count) qs (r.bind provider (.live l)) =
      answers (Tally.ask count) qs (r.bind provider (.fixed l.fallback)) := by
  apply List.ext_getElem?
  intro c
  cases hq : qs[c]? with
  | none => rw [getElem?_answers, getElem?_answers, hq]; rfl
  | some q =>
    obtain ⟨m, n, hm, hn, other, own⟩ := getElem?_answers_live r provider l hq
    rw [hm, hn]
    by_cases hq : q.provider = provider
    · obtain ⟨outcome, houtcome, rfl⟩ := own hq
      have failed := h outcome (List.mem_of_getElem? houtcome)
      cases outcome with
      | ok => simp [Except.isOk, Except.toBool] at failed
      | error => rfl
    · rw [other hq]

end Registry

namespace Plan

variable {p : Plan}

theorem live_run_degrades_per_call (p : Plan) (h : p.Valid) (r : Registry) (provider : Provider)
    (l : LiveCounter) :
    let live := r.bind provider (.live l)
    let fixed := r.bind provider (.fixed l.fallback)
    let outcomes := l.responder.outcomes (p.queriesTo provider)
    ∃ xs ys, (p.run Registry.count live).1 = .ok xs ∧ (p.run Registry.count fixed).1 = .ok ys ∧
      xs.map Sample.key = ys.map Sample.key ∧
      (∀ i k j size pair, p.sizes[i]? = some size → p.pairs[k]? = some pair → j < p.trials →
        let place := i * p.pairs.length + k
        let turn := (i * p.modelCount provider + (p.pairs.take k).countP (·.1 = provider)) *
          p.trials + j
        ∃ s t m n, xs[place]? = some s ∧ ys[place]? = some t ∧ s.key = (size, pair) ∧
          s.counts.length = p.trials ∧ t.counts.length = p.trials ∧
          s.counts[j]? = some m ∧ t.counts[j]? = some n ∧
          (pair.1 ≠ provider → m = n) ∧
          (pair.1 = provider → ∃ outcome,
            outcomes[turn]? = some outcome ∧ m = outcome.toOption.getD n)) ∧
      ((∀ outcome ∈ outcomes, outcome.isOk = false) →
        xs = ys ∧ ∃ records, (p.summarize Registry.count live).1 = .ok records ∧
          (p.summarize Registry.count fixed).1 = .ok records) := by
  intro live fixed outcomes
  refine ⟨p.samples Registry.count live, p.samples Registry.count fixed, ?_, ?_, ?_, ?_, ?_⟩
  · rw [run_of_valid _ h]
  · rw [run_of_valid _ h]
  · rw [map_key_samples, map_key_samples]
  · intro i k j size pair hi hk hj place turn
    obtain ⟨s, hs, hkey, hslength, hscounts⟩ := getElem?_samples Registry.count live hi hk
    obtain ⟨t, ht, -, htlength, htcounts⟩ := getElem?_samples Registry.count fixed hi hk
    obtain ⟨text, -, hquery⟩ := getElem?_queries hi hk hj
    obtain ⟨m, n, hm, hn, other, own⟩ :=
      Registry.getElem?_answers_live r provider l hquery
    refine ⟨s, t, m, n, hs, ht, hkey, hslength, htlength, (hscounts j hj).trans hm,
      (htcounts j hj).trans hn, other, ?_⟩
    intro hpair
    obtain ⟨outcome, houtcome, heq⟩ := own hpair
    rw [countP_take_queries hi hk hj hpair] at houtcome
    exact ⟨outcome, houtcome, heq⟩
  · intro hfail
    have same : p.samples Registry.count live = p.samples Registry.count fixed :=
      samples_congr (Registry.answers_live_of_failing hfail)
    refine ⟨same, (p.samples Registry.count fixed).map Sample.record, ?_, ?_⟩
    · rw [summarize_of_valid _ h, same]
    · rw [summarize_of_valid _ h]

/-- A service that answers, fails and answers again. -/
theorem live_run_degrades_second_call :
    let p : Plan := {
      sizes := [3], trials := 3, seed := 17
      groups := [(.openAI, ["gpt-4"]), (.anthropic, ["claude"])] }
    let script : List Service.Outcome := [.ok 7, .error (.rejected 529 "overloaded"), .ok 9]
    let l : LiveCounter := { responder := .script script, fallback := .cl100k }
    p.Valid ∧ p.sizes[0]? = some 3 ∧ p.pairs[1]? = some (.anthropic, "claude") ∧
    ∃ xs ys s t,
      (p.run Registry.count ⟨.perModel, .live l⟩).1 = .ok xs ∧
      (p.run Registry.count ⟨.perModel, .fixed .cl100k⟩).1 = .ok ys ∧
      xs[1]? = some s ∧ ys[1]? = some t ∧
      s.counts[0]? = some 7 ∧ s.counts[1]? = t.counts[1]? ∧ s.counts[2]? = some 9 := by
  intro p script l
  have valid : p.Valid := by decide
  obtain ⟨xs, ys, hxs, hys, -, hplace, -⟩ :=
    live_run_degrades_per_call p valid ⟨.perModel, .perModel⟩ .anthropic l
  have asked : (p.queriesTo .anthropic).length = 3 := by
    rw [length_queriesTo]
    decide
  have trial (j : Nat) (hj : j < 3) : ∃ s t m n, xs[1]? = some s ∧ ys[1]? = some t ∧
      s.counts[j]? = some m ∧ t.counts[j]? = some n ∧
        m = (script.getD j Responder.exhausted).toOption.getD n := by
    obtain ⟨s, t, m, n, hs, ht, -, -, -, hm, hn, -, own⟩ :=
      hplace 0 1 j 3 (.anthropic, "claude") rfl rfl hj
    obtain ⟨outcome, houtcome, hcount⟩ := own rfl
    have none : (p.pairs.take 1).countP (·.1 = .anthropic) = 0 := by decide
    rw [none, Nat.zero_mul, Nat.zero_mul, Nat.zero_add,
      Responder.getElem?_outcomes_script script (by omega)] at houtcome
    obtain rfl := Option.some.inj houtcome
    exact ⟨s, t, m, n, hs, ht, hm, hn, hcount⟩
  obtain ⟨s, t, _, _, hs, ht, first, -, rfl⟩ := trial 0 (by decide)
  obtain ⟨s', t', m, n, hs', ht', second, second', rfl⟩ := trial 1 (by decide)
  obtain ⟨s'', -, _, _, hs'', -, third, -, rfl⟩ := trial 2 (by decide)
  rw [hs, Option.some.injEq] at hs' hs''
  rw [ht, Option.some.injEq] at ht'
  subst hs' hs'' ht'
  exact ⟨valid, rfl, rfl, xs, ys, s, t, hxs, hys, hs, ht, first, second.trans second'.symm, third⟩

end Plan
end TokenSurvey
