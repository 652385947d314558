import Std.Data.String.ToNat
import TokenSurvey.Proofs.Plan.Measurement

/-! The summary of a run: a plan in order gives samples that can all be summarized, and every record
is about its own sample. -/
namespace TokenSurvey

open Dialogue

/-- The record of a sample that has counts. -/
def Sample.record (s : Sample) : Record :=
  { label := s.label
    provider := s.provider
    model := s.model
    statistics := .ofSorted s.counts.mergeSort s.size }

@[simp] theorem Sample.trials_record (s : Sample) : s.record.statistics.trials = s.counts.length :=
  List.length_mergeSort _

theorem Sample.summarize_eq {s : Sample} (hcounts : s.counts ≠ []) (hsize : s.size ≠ 0) :
    s.summarize = .ok s.record := by
  rw [summarize, Record.ofCounts, Statistics.summarize, if_neg hcounts, if_neg hsize]
  rfl

/-- Records of different sizes have different labels. -/
theorem Sample.label_inj {s t : Sample} : s.label = t.label ↔ s.size = t.size := by
  constructor
  · intro h
    exact Nat.repr_inj.mp ((String.append_left_inj " chars").mp h)
  · intro h
    rw [label, label, h]

theorem mapM_summarize {samples : List Sample}
    (h : ∀ s ∈ samples, s.counts ≠ [] ∧ s.size ≠ 0) :
    samples.mapM Sample.summarize = .ok (samples.map Sample.record) := by
  induction samples with
  | nil => rfl
  | cons s samples ih =>
    obtain ⟨hcounts, hsize⟩ := h s (by simp)
    rw [List.mapM_cons, Sample.summarize_eq hcounts hsize, ih fun t ht => h t (by simp [ht])]
    rfl

namespace Plan

variable {σ : Type} {tally : Tally σ} {p : Plan}

theorem size_mem_of_mem_samples {state : σ} {s : Sample} (h : s ∈ p.samples tally state) :
    s.size ∈ p.sizes := by
  obtain ⟨c, hc, t, rfl⟩ := exists_of_mem_answers h
  exact (List.of_mem_zip (mem_rows_of_mem_cells hc)).1

/-- Samples of a plan in order have counts, and a size that is not zero. -/
theorem summarizable_of_mem_samples (h : p.Valid) {state : σ} {s : Sample}
    (hs : s ∈ p.samples tally state) : s.counts ≠ [] ∧ s.size ≠ 0 := by
  obtain ⟨-, hzero, htrials⟩ := h
  constructor
  · intro hnil
    apply htrials
    rw [← length_counts hs, hnil, List.length_nil]
  · intro hsize
    exact hzero (hsize ▸ size_mem_of_mem_samples hs)

theorem summarize_of_valid (tally : Tally σ) (h : p.Valid) (state : σ) :
    p.summarize tally state =
      (.ok ((p.samples tally state).map Sample.record), after tally.ask p.queries state) := by
  rw [summarize, run_of_valid tally h]
  exact congrArg (·, after tally.ask p.queries state)
    (mapM_summarize fun s => summarizable_of_mem_samples h)

theorem summarize_of_run_error {fault : Fault} {state state' : σ}
    (h : p.run tally state = (.error fault, state')) :
    p.summarize tally state = (.error fault, state') := by
  rw [summarize, h]
  rfl

theorem valid_of_run_ok {samples : List Sample} {state state' : σ}
    (h : p.run tally state = (.ok samples, state')) : p.Valid := by
  by_cases valid : p.Valid
  · exact valid
  · obtain ⟨detail, hd⟩ := check_of_not_valid valid
    rw [run_of_error hd] at h
    cases h

theorem summary_follows_samples (tally : Tally σ) (p : Plan) (state : σ) :
    (∀ fault state', p.run tally state = (.error fault, state') →
      p.summarize tally state = (.error fault, state')) ∧
    (∀ samples state', p.run tally state = (.ok samples, state') →
      ∃ records, p.summarize tally state = (.ok records, state') ∧
        records.length = samples.length ∧
        (∀ (i : Nat) (s : Sample), samples[i]? = some s →
          ∃ record : Record, records[i]? = some record ∧
            record.provider = s.provider ∧ record.model = s.model ∧
            record.label = toString s.size ++ " chars" ∧ record.statistics.trials = p.trials ∧
            Statistics.summarize s.counts s.size = .ok record.statistics) ∧
        ∀ (i j : Nat) (s t : Sample) (record other : Record),
          samples[i]? = some s → samples[j]? = some t →
          records[i]? = some record → records[j]? = some other →
          s.size ≠ t.size → record.label ≠ other.label) := by
  constructor
  · intro fault state' h
    exact summarize_of_run_error h
  · intro samples state' h
    have valid := valid_of_run_ok h
    rw [run_of_valid tally valid] at h
    obtain ⟨measured, rfl⟩ := Prod.mk.inj h
    obtain rfl := Except.ok.inj measured
    refine ⟨_, summarize_of_valid tally valid state, List.length_map _, ?_, ?_⟩
    · intro i s hs
      have hmem := List.mem_of_getElem? hs
      obtain ⟨hcounts, hsize⟩ := summarizable_of_mem_samples valid hmem
      refine ⟨s.record, by rw [List.getElem?_map, hs, Option.map_some], rfl, rfl, rfl, ?_, ?_⟩
      · rw [Sample.trials_record, length_counts hmem]
      · rw [Statistics.summarize, if_neg hcounts, if_neg hsize]
        rfl
    · intro i j s t record other hs ht hrecord hother hne
      rw [List.getElem?_map, hs, Option.map_some, Option.some.injEq] at hrecord
      rw [List.getElem?_map, ht, Option.map_some, Option.some.injEq] at hother
      subst hrecord hother
      exact fun same => hne (Sample.label_inj.mp same)

/-- Two sizes, measured by a tally that numbers its answers; and the same plan without trials. -/
theorem summary_follows_samples_numbered :
    let tally : Tally Nat := fun _ _ _ n => (n, n + 1)
    let p : Plan :=
      { sizes := [3, 5], trials := 2, seed := 17, groups := [(.anthropic, ["claude"])] }
    let q : Plan := { p with trials := 0 }
    (∃ fault, q.run tally 0 = (.error fault, 0) ∧ q.summarize tally 0 = (.error fault, 0)) ∧
    ∃ samples records state s t record other,
      p.run tally 0 = (.ok samples, state) ∧ p.summarize tally 0 = (.ok records, state) ∧
      records.length = 2 ∧ samples[0]? = some s ∧ samples[1]? = some t ∧
      records[0]? = some record ∧ records[1]? = some other ∧ s.size ≠ t.size ∧
      record.label ≠ other.label ∧ Statistics.summarize t.counts t.size = .ok other.statistics := by
  intro tally p q
  have bad : ¬ q.Valid := by decide
  have good : p.Valid := by decide
  obtain ⟨detail, hd⟩ := check_of_not_valid bad
  have refused : q.run tally 0 = (.error (.invalidParameter detail), 0) := run_of_error hd 0
  have ran := run_of_valid tally good 0
  obtain ⟨records, summarized, length, place, labels⟩ :=
    (summary_follows_samples tally p 0).2 _ _ ran
  obtain ⟨s, hs, hkey, -⟩ := getElem?_samples tally 0 (p := p) (i := 0) (k := 0) rfl rfl
  obtain ⟨t, ht, hkey', -⟩ := getElem?_samples tally 0 (p := p) (i := 1) (k := 0) rfl rfl
  obtain ⟨record, hrecord, -⟩ := place 0 s hs
  obtain ⟨other, hother, -, -, -, -, statistics⟩ := place 1 t ht
  have sizes : s.size ≠ t.size := by
    rw [(Prod.mk.inj hkey).1, (Prod.mk.inj hkey').1]
    decide
  refine ⟨⟨_, refused, (summary_follows_samples tally q 0).1 _ _ refused⟩, _, records, _, s, t,
    record, other, ran, summarized, ?_, hs, ht, hrecord, hother, sizes,
    labels 0 1 s t record other hs ht hrecord hother sizes, statistics⟩
  rw [length, length_samples]
  rfl

end Plan
end TokenSurvey
