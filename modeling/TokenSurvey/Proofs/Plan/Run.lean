import TokenSurvey.Proofs.Counter.Separation
import TokenSurvey.Proofs.Lorem.Words
import TokenSurvey.Proofs.Random.Outputs

/-! What a run with a registry does: it is refused without any effect, or it measures every cell of
the plan in its place and puts every query once, in the order of sizes, pairs and trials. -/
namespace TokenSurvey

open Dialogue
open TokenSurvey.Random (Source)

namespace Plan

theorem run_follows_plan (p : Plan) (r : Registry) :
    (¬ p.Valid → ∃ detail,
      p.run Registry.count r = (.error (.invalidParameter detail), r) ∧
      ∀ source, p.perform (Tally.recorded Registry.count) ⟨source, (r, [])⟩ =
        (.error (.invalidParameter detail), ⟨source, (r, [])⟩)) ∧
    (p.Valid → ∃ texts left samples log,
      (p.sizes.flatMap (List.replicate p.trials)).mapM Lorem.passage
        (Source.ofSeed (UInt64.ofNat p.seed)) = (.ok texts, left) ∧
      p.run Registry.count r = (.ok samples, r.asked (log.map Prod.fst)) ∧
      p.perform (Tally.recorded Registry.count)
          ⟨Source.ofSeed (UInt64.ofNat p.seed), (r, [])⟩ =
        (.ok samples, ⟨left, (r.asked (log.map Prod.fst), log)⟩) ∧
      samples.length = p.sampleCount ∧ p.sampleCount = p.sizes.length * p.pairs.length ∧
      log.length = p.sampleCount * p.trials ∧
      ∀ i k size pair, p.sizes[i]? = some size → p.pairs[k]? = some pair →
        let place := i * p.pairs.length + k
        ∃ s, samples[place]? = some s ∧ s.size = size ∧ (s.provider, s.model) = pair ∧
          s.counts.length = p.trials ∧
          ∀ j < p.trials, ∃ text n,
            texts[i * p.trials + j]? = some text ∧ s.counts[j]? = some n ∧
            log[place * p.trials + j]? = some (⟨pair.1, pair.2, text⟩, n) ∧
            n = (((r.asked ((log.take (place * p.trials + j)).map Prod.fst)).counter pair.1).count
              pair.2 text).1) := by
  constructor
  · intro h
    obtain ⟨detail, hd⟩ := check_of_not_valid h
    exact ⟨detail, run_of_error hd r, fun source => perform_of_error hd _⟩
  · intro h
    let replies := answers (Tally.ask Registry.count) p.queries r
    have asked : (p.queries.zip replies).map Prod.fst = p.queries :=
      List.map_fst_zip (by simp [replies])
    refine ⟨p.drawn, after Lorem.text p.lengths (.ofSeed (UInt64.ofNat p.seed)),
      p.samples Registry.count r, p.queries.zip replies, mapM_passage_lengths h, ?_, ?_,
      length_samples r, p.sampleCount_eq, ?_, ?_⟩
    · rw [asked]
      exact run_of_valid Registry.count h r
    · rw [asked, ← source, perform_of_valid _ h, ← samples, Tally.samples_recorded,
        Cell.after_measure, ← queries, Tally.after_recorded]
      rfl
    · simp [replies, length_queries]
    · intro i k size pair hi hk place
      obtain ⟨s, hs, hkey, hlength, hcounts⟩ := getElem?_samples Registry.count r hi hk
      obtain ⟨hsize, hpair⟩ := Prod.mk.inj hkey
      refine ⟨s, hs, hsize, hpair, hlength, ?_⟩
      intro j hj
      obtain ⟨text, htext, hquery⟩ := getElem?_queries hi hk hj
      have hreply := getElem?_answers (Tally.ask Registry.count) p.queries r (place * p.trials + j)
      rw [hquery, Option.map_some] at hreply
      refine ⟨text, _, htext, (hcounts j hj).trans hreply, ?_, ?_⟩
      · exact List.getElem?_zip_eq_some.mpr ⟨hquery, hreply⟩
      · rw [List.map_take, asked]
        rfl

/-- The first word that the standard seed gives, by the first output of its tape. -/
theorem word_of_standard_seed : (Lorem.word (Source.ofSeed 42)).1 = "duis" := by
  have output : (Source.ofSeed 42).tape (Source.ofSeed 42).position = 9713269763989775522 := by
    simp only [Source.ofSeed, Random.Keystream.tape, Random.Keystream.block,
      Vector.getElem_zipWith]
    decide +kernel
  have accepted : Random.accepts Lorem.corpus.length 9713269763989775522 = true := by decide
  rw [Lorem.word, Random.draw_of_accepts (by rwa [output]), output]
  rfl

/-- A text that ends inside that word. -/
theorem text_of_standard_seed : (Lorem.text 3 (Source.ofSeed 42)).1 = "dui" := by
  have joined : Lorem.joined 1 (Source.ofSeed 42) = "duis" := word_of_standard_seed
  have long : 3 ≤ (Lorem.joined 1 (Source.ofSeed 42)).length := by
    rw [joined]
    decide
  rw [Lorem.text_eq_take (by decide) long, joined]
  rfl

/-- Two sizes, a model that is listed twice, an empty group, and a service that fails at its second
call. -/
theorem run_follows_plan_twice_listed :
    let r : Registry := {
      openAI := .perModel
      anthropic := .live {
        responder := .script [.ok 7, .error (.network "no route")], fallback := .cl100k } }
    let p : Plan := {
      sizes := [3, 5], trials := 2, seed := 42
      groups := [(.openAI, ["gpt-4", "gpt-4"]), (.openAI, []), (.anthropic, ["claude"])] }
    let q : Plan := { p with sizes := [3, 0] }
    (¬ q.Valid ∧ ∃ detail, q.run Registry.count r = (.error (.invalidParameter detail), r)) ∧
    p.Valid ∧ p.sizes[1]? = some 5 ∧ p.pairs[2]? = some (.anthropic, "claude") ∧
    ∃ texts left samples first last,
      [3, 3, 5, 5].mapM Lorem.passage (Source.ofSeed 42) = (.ok texts, left) ∧
      texts[0]? = some "dui" ∧
      (p.run Registry.count r).1 = .ok samples ∧ samples.length = 6 ∧
      samples[0]? = some first ∧ first.counts[0]? = some ((Encoding.resolve "gpt-4").count "dui") ∧
      samples[5]? = some last ∧ last.size = 5 ∧
      (last.provider, last.model) = (.anthropic, "claude") ∧ last.counts.length = 2 := by
  intro r p q
  have bad : ¬ q.Valid := by decide
  have good : p.Valid := by decide
  obtain ⟨detail, hq, -⟩ := (run_follows_plan q r).1 bad
  obtain ⟨texts, left, samples, log, htexts, hp, -, hlength, -, -, hplace⟩ :=
    (run_follows_plan p r).2 good
  have begins : texts[0]? = some "dui" := by
    have drawn := Lorem.mapM_passage (by decide : ∀ n ∈ [3, 3, 5, 5], n ≠ 0) (Source.ofSeed 42)
    obtain rfl : answers Lorem.text [3, 3, 5, 5] (Source.ofSeed 42) = texts :=
      Except.ok.inj (congrArg Prod.fst (drawn.symm.trans htexts))
    rw [answers_cons, List.getElem?_cons_zero, text_of_standard_seed]
  obtain ⟨first, hfirst, -, -, -, hcount⟩ := hplace 0 0 3 (.openAI, "gpt-4") rfl rfl
  obtain ⟨text, n, htext, hn, -, count⟩ := hcount 0 (by decide)
  obtain rfl : "dui" = text := Option.some.inj (begins.symm.trans htext)
  obtain ⟨last, hlast, hsize, hpair, hcounts, -⟩ := hplace 1 2 5 (.anthropic, "claude") rfl rfl
  refine ⟨⟨bad, detail, hq⟩, good, rfl, rfl, texts, left, samples, first, last, htexts, begins,
    by rw [hp], hlength, hfirst, ?_, hlast, hsize, hpair, hcounts⟩
  rw [hn, count]
  rfl

end Plan
end TokenSurvey
