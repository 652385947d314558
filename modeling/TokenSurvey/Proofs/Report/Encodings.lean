import TokenSurvey.Proofs.Counter.Separation
import TokenSurvey.Proofs.Plan.Summary
import TokenSurvey.Proofs.Plan.Turns
import TokenSurvey.Report.Document

/-! The report of a run names, for every pair of the plan, the encoding that was behind its local
counts, and its results stand row by row in the order of these entries. -/
namespace TokenSurvey

open Dialogue

namespace Report.Document

variable {p : Plan} {r : Registry} {records : List Record} {time : Timestamp} {j : Nat}

/-- The entry of a pair; what was asked in the run does not bear on it. -/
theorem getElem?_encodings_ofRun (qs : List Query) :
    (ofRun p (r.asked qs) records time).encodings[j]? = p.pairs[j]?.map fun pair =>
      ⟨pair.1, pair.2, (r.counter pair.1).localEncoding pair.2⟩ := by
  simp only [ofRun, List.getElem?_map, Registry.localEncoding_asked]

@[simp] theorem length_encodings_ofRun :
    (ofRun p r records time).encodings.length = p.pairs.length := List.length_map ..

theorem pairs_encodings_ofRun :
    (ofRun p r records time).encodings.map (fun e => (e.provider, e.model)) = p.pairs := by
  simp [ofRun, Function.comp_def]

end Report.Document

/-- Behind every answer there is the count in the local encoding of the model: it is the answer of a
counter that asks no service, and stands in for the outcome of one that fails. -/
theorem Registry.exists_answer_by_encoding {r : Registry} {qs : List Query} {q : Query} {i : Nat}
    (hq : qs[i]? = some q) :
    let behind := ((r.counter q.provider).localEncoding q.model).count q.text
    ∃ n, (answers (Tally.ask count) qs r)[i]? = some n ∧
      ((r.counter q.provider).mode ≠ .live → n = behind) ∧
      ∀ l, r.counter q.provider = .live l → ∃ outcome,
        (l.responder.outcomes (qs.filter (·.provider = q.provider)))[
          (qs.take i).countP (·.provider = q.provider)]? = some outcome ∧
        n = outcome.toOption.getD behind := by
  intro behind
  cases hr : r.counter q.provider with
  | live l =>
    obtain ⟨outcome, houtcome, answer⟩ := getElem?_answers_of_live hr hq
    have fallback : behind = l.fallback.count q.text := by
      simp only [behind, hr]
      rfl
    refine ⟨_, answer, fun unlinked => (unlinked rfl).elim, ?_⟩
    rintro l' ⟨⟩
    exact ⟨outcome, houtcome, by rw [fallback]⟩
  | perModel | fixed =>
    have unlinked : (r.counter q.provider).mode ≠ .live := by simp [hr, Counter.mode]
    exact ⟨_, getElem?_answers_of_not_live unlinked hq, fun _ => rfl, fun _ => nofun⟩

namespace Plan

open Report (Document Timestamp)

theorem encodings_underlie_counts (p : Plan) (h : p.Valid) (r : Registry) (time : Timestamp) :
    ∃ samples records r',
      p.run Registry.count r = (.ok samples, r') ∧
      p.summarize Registry.count r = (.ok records, r') ∧
      let d := Document.ofRun p r' records time
      let m := d.encodings.length
      d.encodings.map (fun e => (e.provider, e.model)) = p.pairs ∧
      d.results.length = p.sizes.length * m ∧
      ∀ i j size e, p.sizes[i]? = some size → d.encodings[j]? = some e →
        let place := i * m + j
        let turn := (i * p.modelCount e.provider + (p.pairs.take j).countP (·.1 = e.provider)) *
          p.trials
        ∃ s result, samples[place]? = some s ∧ s.summarize = .ok result ∧
          d.results[place]? = some result ∧ result.label = toString size ++ " chars" ∧
          result.provider = e.provider ∧ result.model = e.model ∧ s.counts.length = p.trials ∧
          ∀ t < p.trials, ∃ text n,
            p.drawn[i * p.trials + t]? = some text ∧ s.counts[t]? = some n ∧
            ((r.counter e.provider).mode ≠ .live → n = e.encoding.count text) ∧
            (∀ l, r.counter e.provider = .live l → ∃ outcome,
              (l.responder.outcomes (p.queriesTo e.provider))[turn + t]? = some outcome ∧
              n = outcome.toOption.getD (e.encoding.count text)) := by
  refine ⟨p.samples Registry.count r, (p.samples Registry.count r).map Sample.record,
    r.asked p.queries, run_of_valid _ h r, summarize_of_valid _ h r,
    Document.pairs_encodings_ofRun, ?_, ?_⟩
  · simp [Document.ofRun, sampleCount_eq]
  · intro i j size e hi he place turn
    rw [Document.getElem?_encodings_ofRun, Option.map_eq_some_iff] at he
    obtain ⟨pair, hj, rfl⟩ := he
    obtain ⟨s, hs, hkey, hlength, hcounts⟩ := getElem?_samples Registry.count r hi hj
    obtain ⟨hsize, hpair⟩ := Prod.mk.inj hkey
    obtain ⟨hprovider, hmodel⟩ := Prod.mk.inj hpair
    obtain ⟨some_counts, some_size⟩ := summarizable_of_mem_samples h (List.mem_of_getElem? hs)
    have hplace : place = i * p.pairs.length + j := by
      rw [← Document.length_encodings_ofRun]
    refine ⟨s, s.record, hplace ▸ hs, Sample.summarize_eq some_counts some_size, ?_, ?_,
      hprovider, hmodel, hlength, ?_⟩
    · change ((p.samples Registry.count r).map Sample.record)[place]? = _
      rw [List.getElem?_map, hplace, hs, Option.map_some]
    · rw [← hsize]
      rfl
    · intro t ht
      obtain ⟨text, htext, hquery⟩ := getElem?_queries hi hj ht
      obtain ⟨n, answer, unlinked, live⟩ := Registry.exists_answer_by_encoding (r := r) hquery
      rw [countP_take_queries hi hj ht rfl] at live
      exact ⟨text, n, htext, (hcounts t ht).trans answer, unlinked, live⟩

/-- A model listed in two groups, and a service that answers once and then fails. -/
theorem encodings_underlie_counts_after_failure :
    let p : Plan := {
      sizes := [3, 5], trials := 1, seed := 17
      groups := [(.anthropic, ["claude"]), (.openAI, []), (.openAI, ["gpt-4", "gpt-4o"])] }
    let r : Registry := {
      openAI := .perModel
      anthropic := .live { responder := .script [.ok 7], fallback := .r50k } }
    p.Valid ∧ ∃ samples records r' s text n,
      p.run Registry.count r = (.ok samples, r') ∧
      p.summarize Registry.count r = (.ok records, r') ∧
      (Document.ofRun p r' records ⟨0, 0⟩).results.length = 6 ∧
      samples[3]? = some s ∧ p.drawn[1]? = some text ∧ s.counts[0]? = some n ∧
      n = Encoding.r50k.count text := by
  intro p r
  have valid : p.Valid := by decide
  obtain ⟨samples, records, r', hrun, hsummary, hpairs, hlength, hplace⟩ :=
    encodings_underlie_counts p valid r ⟨0, 0⟩
  have width : (Document.ofRun p r' records ⟨0, 0⟩).encodings.length = 3 := by
    rw [← List.length_map (fun e => (e.provider, e.model)), hpairs]
    rfl
  have asked : r' = r.asked p.queries := by
    rw [run_of_valid _ valid] at hrun
    exact (Prod.mk.inj hrun).2.symm
  have named : (Document.ofRun p r' records ⟨0, 0⟩).encodings[0]? =
      some ⟨.anthropic, "claude", .r50k⟩ := by
    rw [asked, Document.getElem?_encodings_ofRun]
    rfl
  obtain ⟨s, result, hs, -, -, -, -, -, -, htrial⟩ := hplace 1 0 5 _ rfl named
  obtain ⟨text, n, htext, hn, -, hlive⟩ := htrial 0 (by decide)
  obtain ⟨outcome, houtcome, rfl⟩ := hlive _ rfl
  have turn : (1 * p.modelCount .anthropic +
      (p.pairs.take 0).countP (·.1 = .anthropic)) * p.trials + 0 = 1 := by decide
  have length : (p.queriesTo .anthropic).length = 2 := by
    rw [length_queriesTo]
    decide
  have reached : 1 < (p.queriesTo .anthropic).length := by omega
  rw [turn, Responder.getElem?_outcomes_script _ reached] at houtcome
  obtain rfl := Option.some.inj houtcome
  rw [width] at hs hlength
  exact ⟨valid, samples, records, r', s, text, _, hrun, hsummary, hlength, hs, htext, hn, rfl⟩

end Plan
end TokenSurvey
