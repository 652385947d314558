import TokenSurvey.Proofs.Plan.Schedule

/-! A run of a plan in order is its cells measured one after another; any other plan is refused
before anything is drawn or asked. -/
namespace TokenSurvey

open Dialogue
open TokenSurvey.Random (Source)

variable {σ : Type} {tally : Tally σ} {p : Plan}

/-- Nothing else can be wrong with a run than its sizes and its trials. -/
theorem Settings.Run.defect?_eq_none_iff {r : Settings.Run} :
    r.defect? = none ↔ r.sizes ≠ [] ∧ 0 ∉ r.sizes ∧ r.trials ≠ 0 := by
  have nonzero : r.sizes.findIdx? (· = 0) = none ↔ 0 ∉ r.sizes := by
    rw [List.findIdx?_eq_none_iff]
    constructor
    · intro h hz
      simpa using h 0 hz
    · intro h size hsize
      have : size ≠ 0 := fun hz => h (hz ▸ hsize)
      simpa using this
  by_cases hsizes : r.sizes = []
  · simp [defect?, hsizes]
  · cases hi : r.sizes.findIdx? (· = 0) with
    | none => simp [defect?, hsizes, hi, nonzero.mp hi]
    | some i =>
      have : ¬ 0 ∉ r.sizes := fun h => by simp [nonzero.mpr h] at hi
      simp [defect?, hsizes, hi, this]

def Tally.ask (tally : Tally σ) (q : Query) : StateM σ Nat := tally q.provider q.model q.text

/-- What a sample is about, its counts apart. -/
def Sample.key (s : Sample) : Nat × Provider × String := (s.size, s.provider, s.model)

theorem Sample.eq_of_key {s t : Sample} (keys : s.key = t.key) (counts : s.counts = t.counts) :
    s = t := by
  cases s
  cases t
  simp_all [Sample.key]

namespace Cell

def sample (c : Cell) (counts : List Nat) : Sample :=
  { size := c.size, provider := c.provider, model := c.model, counts }

def measure (tally : Tally σ) (c : Cell) : StateM σ Sample :=
  Plan.measure tally c.size c.texts c.provider c.model

theorem measure_apply (c : Cell) (state : σ) :
    c.measure tally state =
      (c.sample (answers tally.ask c.queries state), after tally.ask c.queries state) := by
  have asked : c.queries.mapM tally.ask = c.texts.mapM (tally c.provider c.model) := by
    rw [queries, List.mapM_map]
    rfl
  rw [answers, after, asked]
  rfl

/-- The counts of all cells are the answers to their queries, in order. -/
theorem flatMap_counts (cells : List Cell) (state : σ) :
    (answers (measure tally) cells state).flatMap Sample.counts =
      answers tally.ask (cells.flatMap queries) state := by
  induction cells generalizing state with
  | nil => rfl
  | cons c cells ih => simp [measure_apply, answers_append, ih, sample]

theorem after_measure (cells : List Cell) (state : σ) :
    after (measure tally) cells state = after tally.ask (cells.flatMap queries) state := by
  induction cells generalizing state with
  | nil => rfl
  | cons c cells ih => simp [measure_apply, after_append, ih]

end Cell

namespace Plan

theorem measureTexts_eq (size : Nat) (texts : List String) :
    p.measureTexts tally size texts =
      p.pairs.mapM fun pair => Plan.measure tally size texts pair.1 pair.2 := by
  simp only [pairs, mapM_flatMap, List.mapM_map, measureTexts]
  rfl

theorem draw_passages {size : Nat} (h : size ≠ 0) (trials : Nat) (source : Source) (state : σ) :
    Progress.draw (Lorem.passages size trials) ⟨source, state⟩ =
      (.ok (Lorem.batch trials size source).1, ⟨(Lorem.batch trials size source).2, state⟩) := by
  rw [Progress.draw, Lorem.passages_eq h]

/-- What is measured at one size, given its texts. -/
def measureRow (tally : Tally σ) (p : Plan) (row : Nat × List String) : StateM σ (List Sample) :=
  p.measureTexts tally row.1 row.2

/-- A size that is not zero is never refused. -/
theorem measureSize_apply {size : Nat} (h : size ≠ 0) (source : Source) (state : σ) :
    p.measureSize tally size ⟨source, state⟩ =
      let (texts, source) := Lorem.batch p.trials size source
      let (samples, state) := p.measureRow tally (size, texts) state
      (.ok samples, ⟨source, state⟩) := by
  rw [measureSize, bind_of_ok (draw_passages h p.trials source state)]
  rfl

/-- Counting does not bear on what is drawn for the sizes that follow. -/
theorem mapM_measureSize {sizes : List Nat} (h : 0 ∉ sizes) (source : Source) (state : σ) :
    sizes.mapM (p.measureSize tally) ⟨source, state⟩ =
      let rows := sizes.zip (answers (Lorem.batch p.trials) sizes source)
      (.ok (answers (p.measureRow tally) rows state),
        ⟨after (Lorem.batch p.trials) sizes source, after (p.measureRow tally) rows state⟩) := by
  induction sizes generalizing source state with
  | nil => rfl
  | cons size sizes ih =>
    obtain ⟨hsize, hsizes⟩ : 0 ≠ size ∧ 0 ∉ sizes := by simpa using h
    rw [List.mapM_cons, bind_of_ok (measureSize_apply hsize.symm source state),
      bind_of_ok (ih hsizes _ _)]
    simp only [answers_cons, after_cons, List.zip_cons_cons]
    rfl

theorem check_of_valid (h : p.Valid) : p.check = .ok () := by
  have none := Settings.Run.defect?_eq_none_iff (r := ⟨p.sizes, p.trials, p.seed⟩)
  rw [check, none.mpr h]

theorem check_of_not_valid (h : ¬ p.Valid) :
    ∃ detail, p.check = .error (.invalidParameter detail) := by
  cases hd : ({ sizes := p.sizes, trials := p.trials, seed := p.seed : Settings.Run }).defect? with
  | none => exact (h (Settings.Run.defect?_eq_none_iff.mp hd)).elim
  | some defect => exact ⟨defect.message, by rw [check, hd]⟩

/-- A plan that is not in order draws nothing and asks nothing. -/
theorem perform_of_error {fault : Fault} (h : p.check = .error fault) (progress : Progress σ) :
    p.perform tally progress = (.error fault, progress) := by
  rw [perform, h]
  exact bind_of_error rfl

/-- A plan in order measures its cells, and draws its texts whatever the tally answers. -/
theorem perform_of_valid (tally : Tally σ) (h : p.Valid) (state : σ) :
    p.perform tally ⟨p.source, state⟩ =
      (.ok (answers (Cell.measure tally) p.cells state),
        ⟨after Lorem.text p.lengths p.source, after (Cell.measure tally) p.cells state⟩) := by
  have measured : p.measureRow tally = fun row => (p.rowCells row).mapM (Cell.measure tally) := by
    funext row
    rw [measureRow, measureTexts_eq, rowCells, List.mapM_map]
    rfl
  have checked : (liftM p.check : ExceptT Fault (StateM (Progress σ)) Unit) ⟨p.source, state⟩ =
      (.ok (), ⟨p.source, state⟩) := by
    rw [check_of_valid h]
    rfl
  rw [perform, bind_of_ok checked, bind_of_ok (mapM_measureSize h.2.1 p.source state), measured,
    after_batches, cells, answers_flatMap, after_flatMap]
  rfl

/-- The samples of a run. -/
def samples (tally : Tally σ) (p : Plan) (state : σ) : List Sample :=
  answers (Cell.measure tally) p.cells state

theorem run_of_valid (tally : Tally σ) (h : p.Valid) (state : σ) :
    p.run tally state = (.ok (p.samples tally state), after tally.ask p.queries state) := by
  rw [run, perform_of_valid tally h, Cell.after_measure]
  rfl

theorem run_of_error {fault : Fault} (h : p.check = .error fault) (state : σ) :
    p.run tally state = (.error fault, state) := by
  rw [run, perform_of_error h]

@[simp] theorem length_samples (state : σ) : (p.samples tally state).length = p.sampleCount := by
  rw [samples, length_answers, length_cells]

theorem length_counts {state : σ} {s : Sample} (h : s ∈ p.samples tally state) :
    s.counts.length = p.trials := by
  obtain ⟨c, hc, state, rfl⟩ := exists_of_mem_answers h
  simpa [Cell.measure_apply, Cell.sample] using length_cellQueries hc

variable (tally) (state : σ)

theorem getElem?_answers_queries {j : Nat} (hj : j < p.trials) (i : Nat) :
    (answers tally.ask p.queries state)[i * p.trials + j]? =
      (p.samples tally state)[i]?.bind fun s => s.counts[j]? := by
  rw [queries, ← Cell.flatMap_counts]
  exact getElem?_flatMap_of_length hj (p.samples tally state) (fun s => length_counts) i

/-- The sample of pair `k` at size `i`; its counts are the answers to its queries. -/
theorem getElem?_samples {size i k : Nat} {pair : Provider × String}
    (hi : p.sizes[i]? = some size) (hk : p.pairs[k]? = some pair) :
    ∃ s, (p.samples tally state)[i * p.pairs.length + k]? = some s ∧
      s.key = (size, pair) ∧ s.counts.length = p.trials ∧
      ∀ j < p.trials, s.counts[j]? =
        (answers tally.ask p.queries state)[(i * p.pairs.length + k) * p.trials + j]? := by
  obtain ⟨texts, -, hrow⟩ := getElem?_rows hi
  have hs := getElem?_answers (Cell.measure tally) p.cells state (i * p.pairs.length + k)
  rw [getElem?_cells hrow hk, Option.map_some, Cell.measure_apply, ← samples] at hs
  refine ⟨_, hs, rfl, length_counts (List.mem_of_getElem? hs), ?_⟩
  intro j hj
  rw [getElem?_answers_queries tally state hj, hs, Option.bind_some]

/-- What is measured where does not depend on the answers. -/
theorem map_key_samples :
    (p.samples tally state).map Sample.key =
      p.cells.map fun c => (c.size, c.provider, c.model) := by
  apply List.ext_getElem?
  intro i
  rw [samples, List.getElem?_map, getElem?_answers, List.getElem?_map, Option.map_map]
  simp only [Function.comp_def, Cell.measure_apply, Cell.sample, Sample.key]

/-- Samples are determined by the answers. -/
theorem samples_congr {tally} {tally' : Tally τ} {s : σ} {t : τ}
    (h : answers tally.ask p.queries s = answers tally'.ask p.queries t) :
    p.samples tally s = p.samples tally' t := by
  refine List.ext_getElem (by simp) fun i ha hb => ?_
  have sa := List.getElem?_eq_getElem ha
  have sb := List.getElem?_eq_getElem hb
  have keys : (p.samples tally s)[i].key = (p.samples tally' t)[i].key := by
    have same : (p.samples tally s).map Sample.key = (p.samples tally' t).map Sample.key := by
      rw [map_key_samples, map_key_samples]
    simpa [sa, sb] using congrArg (·[i]?) same
  have counts : (p.samples tally s)[i].counts = (p.samples tally' t)[i].counts := by
    have la := length_counts (List.getElem_mem ha)
    have lb := length_counts (List.getElem_mem hb)
    apply List.ext_getElem?
    intro j
    by_cases hj : j < p.trials
    · have answer := getElem?_answers_queries tally' t hj i
      rwa [← h, getElem?_answers_queries tally s hj, sa, sb] at answer
    · rw [List.getElem?_eq_none (by omega), List.getElem?_eq_none (by omega)]
  exact Sample.eq_of_key keys counts

end Plan

namespace Tally

/-- A tally that writes down every query with its answer. -/
def recorded (tally : Tally σ) : Tally (σ × List (Query × Nat)) :=
  fun provider model text (state, log) =>
    let (n, state) := tally provider model text state
    (n, (state, log ++ [({ provider, model, text }, n)]))

theorem ask_recorded (q : Query) (state : σ) (log : List (Query × Nat)) :
    tally.recorded.ask q (state, log) =
      ((tally.ask q state).1, ((tally.ask q state).2, log ++ [(q, (tally.ask q state).1)])) := rfl

theorem answers_recorded (qs : List Query) (state : σ) (log : List (Query × Nat)) :
    answers tally.recorded.ask qs (state, log) = answers tally.ask qs state := by
  induction qs generalizing state log with
  | nil => rfl
  | cons q qs ih => simp [ask_recorded, ih]

theorem after_recorded (qs : List Query) (state : σ) (log : List (Query × Nat)) :
    after tally.recorded.ask qs (state, log) =
      (after tally.ask qs state, log ++ qs.zip (answers tally.ask qs state)) := by
  induction qs generalizing state log with
  | nil => simp
  | cons q qs ih => simp [ask_recorded, ih]

/-- Writing down does not change what is measured. -/
theorem samples_recorded (p : Plan) (state : σ) (log : List (Query × Nat)) :
    p.samples tally.recorded (state, log) = p.samples tally state := by
  have step (c : Cell) (noted : σ × List (Query × Nat)) (state : σ) (h : noted.1 = state) :
      (c.measure tally.recorded noted).1 = (c.measure tally state).1 ∧
        (c.measure tally.recorded noted).2.1 = (c.measure tally state).2 := by
    obtain ⟨s, log⟩ := noted
    subst h
    simp [Cell.measure_apply, answers_recorded, after_recorded]
  exact (answers_eq_of_related step p.cells rfl).1

end Tally
end TokenSurvey
