import TokenSurvey.Proofs.Statistics.Values

/-! Whatever was measured, a summary holds numbers: none of them is infinite, negative or no number. -/
namespace TokenSurvey.Statistics

open Binary64

variable {counts : List Nat} {characters : Nat} {fault : Fault}

theorem Measured.stands_measures (h : Measured counts) (some_characters : characters ≠ 0)
    (word : characters < UInt64.size) :
    ∀ measure ∈ measures, ∃ v, Stands (measure (ofSorted counts characters)) v := by
  rw [forall_mem_measures]
  simp only [mean_ofSorted, p50_ofSorted, p95_ofSorted, stdev_ofSorted, perThousand_ofSorted]
  exact ⟨⟨_, h.stands_mean⟩, ⟨_, h.stands_getD _⟩, ⟨_, h.stands_getD _⟩, ⟨_, h.stands_stdev⟩,
    ⟨_, stands_rate h.stands_mean h.spans_mean some_characters word⟩⟩

/-- Nothing but a missing count or missing characters is refused, the counts being looked at first. -/
theorem summarize_eq_error_iff : summarize counts characters = .error fault ↔
    counts = [] ∧ fault = .emptySample ∨
      counts ≠ [] ∧ characters = 0 ∧ fault = .invalidParameter "char_count must be positive" := by
  unfold summarize
  split_ifs with none zero
  · simp [none, eq_comm]
  · simp [none, zero, eq_comm]
  · simp [none, zero]

theorem measures_are_finite (many : counts.length ≤ 2 ^ 60)
    (words : ∀ c ∈ counts, c < UInt64.size) (word : characters < UInt64.size) :
    (counts ≠ [] → 1 ≤ characters → ∃ summary, summarize counts characters = .ok summary ∧
      ∀ measure ∈ measures, (measure summary).isNaN = false ∧ (measure summary).isFinite = true ∧
        ∃ v, (measure summary).view = .finite v ∧ 0 ≤ v) ∧
    ∀ fault, summarize counts characters = .error fault ↔
      counts = [] ∧ fault = .emptySample ∨
        counts ≠ [] ∧ characters = 0 ∧ fault = .invalidParameter "char_count must be positive" := by
  refine ⟨?_, fun fault => summarize_eq_error_iff⟩
  intro some hchars
  have nonzero : characters ≠ 0 := Nat.one_le_iff_ne_zero.mp hchars
  have sorted := Measured.mergeSort ⟨some, many, words⟩
  refine ⟨ofSorted counts.mergeSort characters, summarize_eq_ok some nonzero, ?_⟩
  intro measure hmeasure
  obtain ⟨v, stands⟩ := sorted.stands_measures nonzero word measure hmeasure
  exact ⟨stands.isNaN, stands.isFinite, v, stands.view, stands.nonneg⟩

/-- The greatest count there is beside the least, on a single character. -/
theorem measures_are_finite_extreme :
    let counts := [18446744073709551615, 0]
    (counts.length ≤ 2 ^ 60 ∧ (∀ c ∈ counts, c < UInt64.size) ∧ 1 < UInt64.size) ∧
      ∃ summary, summarize counts 1 = .ok summary ∧ ∀ measure ∈ measures,
        (measure summary).isNaN = false ∧ (measure summary).isFinite = true ∧
          ∃ v, (measure summary).view = .finite v ∧ 0 ≤ v := by
  intro counts
  have many : counts.length ≤ 2 ^ 60 := by decide
  have words : ∀ c ∈ counts, c < UInt64.size := by decide
  have word : 1 < UInt64.size := by decide
  exact ⟨⟨many, words, word⟩, (measures_are_finite many words word).1 (by decide) le_rfl⟩

end TokenSurvey.Statistics
