import TokenSurvey.Proofs.Encoding.Bounds
import TokenSurvey.Proofs.Lorem.Bytes
import TokenSurvey.Proofs.Report.Encodings

/-! Local counts of a run: each of them, and each that stands in for a failed call, lies between one
and the size of its sample. -/
namespace TokenSurvey

open Dialogue
open Tokens (Spells Tokenizer Vocabulary encodeText)

namespace Plan

variable {p : Plan} {i j size : Nat} {text : String}

/-- Every text of a size is a text of that length. -/
theorem exists_of_drawn (hi : p.sizes[i]? = some size) (hj : j < p.trials)
    (h : p.drawn[i * p.trials + j]? = some text) : ∃ s, text = (Lorem.text size s).1 := by
  obtain ⟨texts, hb, -⟩ := getElem?_rows hi
  rw [getElem?_drawn hj, hb, Option.bind_some] at h
  rw [batches, getElem?_answers, hi, Option.map_some, Option.some.injEq] at hb
  subst hb
  obtain ⟨n, hn, s, rfl⟩ := exists_of_mem_answers (List.mem_of_getElem? h)
  obtain rfl := List.eq_of_mem_replicate hn
  exact ⟨s, rfl⟩

theorem utf8ByteSize_drawn (valid : p.Valid) (hi : p.sizes[i]? = some size) (hj : j < p.trials)
    (h : p.drawn[i * p.trials + j]? = some text) : text.utf8ByteSize = size := by
  obtain ⟨s, rfl⟩ := exists_of_drawn hi hj h
  have nonzero : size ≠ 0 := by
    rintro rfl
    exact valid.2.1 (List.mem_of_getElem? hi)
  exact Lorem.utf8ByteSize_text nonzero s

/-- Any encoding finds a token in a text of a plan, and no more tokens than the size. -/
theorem count_drawn_within_size (valid : p.Valid) (hi : p.sizes[i]? = some size) (hj : j < p.trials)
    (h : p.drawn[i * p.trials + j]? = some text) (e : Encoding) :
    1 ≤ e.count text ∧ e.count text ≤ size := by
  obtain rfl := utf8ByteSize_drawn valid hi hj h
  refine ⟨e.count_pos ?_, e.count_le text⟩
  intro none
  exact valid.2.1 (none ▸ List.mem_of_getElem? hi)

theorem local_counts_within_size :
    (∀ (e : Encoding) (text : String),
      (e.count text = 0 ↔ text = "") ∧ e.count text ≤ text.utf8ByteSize) ∧
    (∀ (e : Encoding) (t : Tokenizer), e.tokenizer? = some t → ∀ (v : Vocabulary) (text : String),
      let n := Tokenizer.count { t with vocabulary := v } text
      (∃ tokens, Spells v (encodeText text.toList) tokens ∧ n = tokens.length) ∧
      (n = 0 ↔ text = "") ∧ n ≤ text.utf8ByteSize) ∧
    ∀ (p : Plan) (r : Registry), p.Valid → ∃ samples,
      (p.run Registry.count r).1 = .ok samples ∧
      samples.length = p.sizes.length * p.pairs.length ∧
      ∀ (i k size : Nat) (pair : Provider × String),
        p.sizes[i]? = some size → p.pairs[k]? = some pair →
        let turn := (i * p.modelCount pair.1 + (p.pairs.take k).countP (·.1 = pair.1)) * p.trials
        ∃ s, samples[i * p.pairs.length + k]? = some s ∧ s.key = (size, pair) ∧
          s.counts.length = p.trials ∧
          ∀ j < p.trials, ∃ text n,
            p.drawn[i * p.trials + j]? = some text ∧ text.utf8ByteSize = size ∧
            s.counts[j]? = some n ∧
            ((r.counter pair.1).mode ≠ .live → 1 ≤ n ∧ n ≤ size) ∧
            ∀ l, r.counter pair.1 = .live l → ∃ outcome,
              (l.responder.outcomes (p.queriesTo pair.1))[turn + j]? = some outcome ∧
              (outcome.isOk = false → 1 ≤ n ∧ n ≤ size) := by
  refine ⟨?_, ?_, ?_⟩
  · intro e text
    exact ⟨e.count_eq_zero_iff text, e.count_le text⟩
  · intro e t ht v text n
    have covers : t.splitting.Covers := Encoding.covers_of_tokenizer? ht
    let changed : Tokenizer := { t with vocabulary := v }
    exact ⟨⟨changed.tokens text, changed.spells_tokens covers text, changed.count_eq text⟩,
      changed.count_eq_zero_iff covers text, changed.count_le covers text⟩
  · intro p r valid
    refine ⟨p.samples Registry.count r, by rw [run_of_valid _ valid], ?_, ?_⟩
    · rw [length_samples, sampleCount_eq]
    · intro i k size pair hi hk turn
      obtain ⟨s, hs, hkey, hlength, hcounts⟩ := getElem?_samples Registry.count r hi hk
      refine ⟨s, hs, hkey, hlength, ?_⟩
      intro j hj
      obtain ⟨text, htext, hquery⟩ := getElem?_queries hi hk hj
      obtain ⟨n, answer, unlinked, live⟩ := Registry.exists_answer_by_encoding (r := r) hquery
      rw [countP_take_queries hi hk hj rfl] at live
      have bytes := utf8ByteSize_drawn valid hi hj htext
      have bounds := count_drawn_within_size valid hi hj htext
      refine ⟨text, n, htext, bytes, (hcounts j hj).trans answer, ?_, ?_⟩
      · intro h
        rw [unlinked h]
        exact bounds _
      · intro l hl
        obtain ⟨outcome, houtcome, rfl⟩ := live l hl
        refine ⟨outcome, houtcome, ?_⟩
        intro failed
        cases outcome with
        | ok => cases failed
        | error => exact bounds _

/-- An encoding for each model beside a service that answers once, with more tokens than there are
bytes, and then fails. -/
theorem local_counts_within_size_beside_service :
    let p : Plan := {
      sizes := [3, 5], trials := 2, seed := 17
      groups := [(.anthropic, ["claude"]), (.openAI, ["gpt-4"])] }
    let r : Registry := {
      openAI := .perModel
      anthropic := .live {
        responder := .script [.ok 700, .error (.network "no route")], fallback := .heuristic } }
    p.Valid ∧ ∃ samples s t m n, (p.run Registry.count r).1 = .ok samples ∧ samples.length = 4 ∧
      samples[0]? = some s ∧ s.counts[1]? = some m ∧ 1 ≤ m ∧ m ≤ 3 ∧
      samples[3]? = some t ∧ t.counts[0]? = some n ∧ 1 ≤ n ∧ n ≤ 5 := by
  intro p r
  have valid : p.Valid := by decide
  obtain ⟨-, -, every⟩ := local_counts_within_size
  obtain ⟨samples, ran, length, place⟩ := every p r valid
  obtain ⟨s, hs, -, -, called⟩ := place 0 0 3 (.anthropic, "claude") rfl rfl
  obtain ⟨-, m, -, -, hm, -, live⟩ := called 1 (by decide)
  obtain ⟨outcome, houtcome, failing⟩ := live _ rfl
  obtain ⟨t, ht, -, -, counted⟩ := place 1 1 5 (.openAI, "gpt-4") rfl rfl
  obtain ⟨-, n, -, -, hn, unlinked, -⟩ := counted 0 (by decide)
  have turn : (0 * p.modelCount .anthropic +
      (p.pairs.take 0).countP (·.1 = .anthropic)) * p.trials + 1 = 1 := by decide
  have asked : (p.queriesTo .anthropic).length = 4 := by
    rw [length_queriesTo]
    decide
  have reached : 1 < (p.queriesTo .anthropic).length := by omega
  rw [turn, Responder.getElem?_outcomes_script _ reached] at houtcome
  obtain rfl := Option.some.inj houtcome
  obtain ⟨low, high⟩ := failing rfl
  obtain ⟨low', high'⟩ := unlinked (by decide)
  exact ⟨valid, samples, s, t, m, n, ran, length, hs, hm, low, high, ht, hn, low', high'⟩

end Plan
end TokenSurvey
