import TokenSurvey.Proofs.Counter.Separation

/-! Samples do not interfere. What a counter that is not live is given depends on the seed, the
trials and the sizes so far, and what it answers on nothing else. -/
namespace TokenSurvey

open Dialogue

namespace Plan

variable {p q : Plan} {i k : Nat}

theorem getElem?_sizes_congr (sizes : p.sizes.take (i + 1) = q.sizes.take (i + 1)) :
    p.sizes[i]? = q.sizes[i]? := by
  have := congrArg (·[i]?) sizes
  simpa [List.getElem?_take] using this

/-- The texts of a size depend on the sizes up to it. -/
theorem getElem?_batches_congr (seed : p.seed = q.seed) (trials : p.trials = q.trials)
    (sizes : p.sizes.take (i + 1) = q.sizes.take (i + 1)) : p.batches[i]? = q.batches[i]? := by
  have before : p.sizes.take i = q.sizes.take i := by
    have := congrArg (List.take i) sizes
    simpa [List.take_take] using this
  rw [batches, batches, getElem?_answers, getElem?_answers, before, getElem?_sizes_congr sizes,
    trials, seed]

/-- The sample of a pair whose counter is not live. -/
theorem getElem?_samples_of_not_live {r : Registry} {provider : Provider} {model : String}
    {size : Nat} {texts : List String} (hr : (r.counter provider).mode ≠ .live)
    (hi : p.sizes[i]? = some size) (hb : p.batches[i]? = some texts)
    (hk : p.pairs[k]? = some (provider, model)) :
    (p.samples Registry.count r)[i * p.pairs.length + k]? = some {
      size, provider, model
      counts := texts.map fun text => ((r.counter provider).count model text).1 } := by
  have hrow : p.rows[i]? = some (size, texts) := List.getElem?_zip_eq_some.mpr ⟨hi, hb⟩
  let before := (p.cells.take (i * p.pairs.length + k)).flatMap Cell.queries
  have kept : (r.asked before).counter provider = r.counter provider :=
    Registry.counter_asked_of_not_live hr before
  have counts := Registry.answers_of_not_live (r := r.asked before) (by rwa [kept]) model texts
  rw [kept] at counts
  rw [samples, getElem?_answers, getElem?_cells hrow hk, Option.map_some, Cell.measure_apply,
    Cell.after_measure, ← counts]
  rfl

theorem sample_depends_on_own_cell (p q : Plan) (hp : p.Valid) (hq : q.Valid)
    (seed : p.seed = q.seed) (trials : p.trials = q.trials) (i : Nat) (hi : i < p.sizes.length)
    (sizes : p.sizes.take (i + 1) = q.sizes.take (i + 1)) (r r' : Registry) (provider : Provider)
    (model : String) (same : r.counter provider = r'.counter provider)
    (unlinked : (r.counter provider).mode ≠ .live) (k k' : Nat)
    (hk : p.pairs[k]? = some (provider, model)) (hk' : q.pairs[k']? = some (provider, model)) :
    ∃ xs ys s, (p.run Registry.count r).1 = .ok xs ∧ (q.run Registry.count r').1 = .ok ys ∧
      xs[i * p.pairs.length + k]? = some s ∧ ys[i * q.pairs.length + k']? = some s ∧
      s.key = (p.sizes[i], provider, model) ∧ s.counts.length = p.trials := by
  have here : p.sizes[i]? = some p.sizes[i] := List.getElem?_eq_getElem hi
  obtain ⟨texts, hb, -⟩ := getElem?_rows here
  have here' : q.sizes[i]? = some p.sizes[i] := by
    rw [← getElem?_sizes_congr sizes, here]
  have hb' : q.batches[i]? = some texts := by
    rw [← getElem?_batches_congr seed trials sizes, hb]
  refine ⟨p.samples Registry.count r, q.samples Registry.count r', _, ?_, ?_,
    getElem?_samples_of_not_live unlinked here hb hk, ?_, rfl, ?_⟩
  · rw [run_of_valid _ hp]
  · rw [run_of_valid _ hq]
  · rw [same] at unlinked ⊢
    exact getElem?_samples_of_not_live unlinked here' hb' hk'
  · rw [List.length_map, length_of_mem_batches (List.mem_of_getElem? hb)]

/-- Other models, other groups, a further size, and another service that answers once. -/
theorem sample_depends_on_own_cell_rearranged :
    let p : Plan := { sizes := [3, 5], trials := 2, seed := 17, groups := [(.openAI, ["gpt-4"])] }
    let q : Plan := {
      sizes := [3, 5, 2], trials := 2, seed := 17
      groups := [
        (.anthropic, ["claude", "claude"]), (.openAI, []), (.openAI, ["gpt-4o", "gpt-4"])] }
    let r : Registry := { openAI := .perModel, anthropic := .fixed .cl100k }
    let r' : Registry := {
      openAI := .perModel
      anthropic := .live { responder := .script [.ok 7], fallback := .cl100k } }
    p.Valid ∧ q.Valid ∧ p.sizes.take 2 = q.sizes.take 2 ∧
    p.pairs[0]? = some (.openAI, "gpt-4") ∧ q.pairs[3]? = some (.openAI, "gpt-4") ∧
    ∃ xs ys s, (p.run Registry.count r).1 = .ok xs ∧ (q.run Registry.count r').1 = .ok ys ∧
      xs[1]? = some s ∧ ys[7]? = some s ∧ s.key = (5, .openAI, "gpt-4") ∧
      s.counts.length = 2 := by
  intro p q r r'
  have valid : p.Valid := by decide
  have valid' : q.Valid := by decide
  have sizes : p.sizes.take 2 = q.sizes.take 2 := rfl
  have listed : p.pairs[0]? = some (.openAI, "gpt-4") := rfl
  have listed' : q.pairs[3]? = some (.openAI, "gpt-4") := rfl
  have unlinked : (r.counter .openAI).mode ≠ .live := by decide
  exact ⟨valid, valid', sizes, listed, listed', sample_depends_on_own_cell p q valid valid' rfl rfl
    1 (by decide) sizes r r' .openAI "gpt-4" rfl unlinked 0 3 listed listed'⟩

end Plan
end TokenSurvey
