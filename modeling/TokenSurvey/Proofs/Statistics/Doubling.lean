import TokenSurvey.Proofs.Statistics.Values

/-! Counts twice as great have a summary twice as great, to the last bit: no step of the summary comes
near the ends of the format, and everywhere between them a double is rounded to the double. -/
namespace TokenSurvey.Statistics

open Binary64

variable {counts : List Nat} {characters c : Nat} {x y : Binary64} {v mean : Rat}

/-- The second number is exactly twice the first. -/
def Twice (x y : Binary64) : Prop := ∃ v, x.view = .finite v ∧ y.view = .finite (2 * v)

theorem twice_of_stands (hx : Stands x v) (hy : Stands y (2 * v)) : Twice x y :=
  ⟨v, hx.view, hy.view⟩

theorem mergeSort_map_double (counts : List Nat) :
    (counts.map (2 * ·)).mergeSort = counts.mergeSort.map (2 * ·) := by
  apply Eq.symm
  apply List.map_mergeSort
  intro a _ b _
  simp

theorem rounded_double (h : c < UInt64.size) : rounded (2 * c : Nat) = 2 * rounded c := by
  rw [Nat.cast_mul, Nat.cast_ofNat]
  exact rounded_two_mul ((spans_word h).normal (by decide))

namespace Measured

theorem double (h : Measured counts) (small : ∀ c ∈ counts, c < 2 ^ 63) :
    Measured (counts.map (2 * ·)) where
  some := fun none => h.some (List.map_eq_nil_iff.mp none)
  many := (List.length_map _).trans_le h.many
  words := by
    rw [List.forall_mem_map]
    intro c hc
    have : UInt64.size = 2 * 2 ^ 63 := by decide
    have := small c hc
    omega

theorem meanValue_double (h : Measured counts) :
    meanValue (counts.map (2 * ·)) = 2 * meanValue counts := by
  rw [meanValue, averageValue_map, meanValue,
    ← h.average_two_mul h.spans_counts (by decide) (by decide)]
  exact averageValue_congr fun c hc => rounded_double (h.words c hc)

/-- What is squared is four times as great. -/
theorem varianceValue_double (h : Measured counts) :
    varianceValue (counts.map (2 * ·)) (2 * meanValue counts) =
      2 * (2 * varianceValue counts (meanValue counts)) := by
  have spans := fun c (hc : c ∈ counts) => h.spans_squaredDistance hc
  have spans_twice := fun c hc => (spans c hc).two_mul
  rw [varianceValue, averageValue_map, varianceValue, ← h.average_two_mul spans (by decide) (by decide),
    ← h.average_two_mul spans_twice (by decide) (by decide)]
  apply averageValue_congr
  intro c hc
  change squaredDistance (rounded (2 * c : Nat)) _ = _
  rw [rounded_double (h.words c hc)]
  exact (h.spans_distance hc).squaredDistance_two_mul (by decide) (by decide)

theorem stdevValue_double (h : Measured counts) :
    stdevValue (counts.map (2 * ·)) (2 * meanValue counts) =
      2 * stdevValue counts (meanValue counts) := by
  rw [stdevValue, stdevValue, List.length_map, h.varianceValue_double,
    roundedRoot_two_mul_two_mul h.variance_least, mul_ite, mul_zero]

theorem rateValue_double (h : Measured counts) (some_characters : characters ≠ 0)
    (word : characters < UInt64.size) :
    rateValue (2 * meanValue counts) characters = 2 * rateValue (meanValue counts) characters := by
  obtain ⟨spans, ne⟩ := spans_thousands some_characters word
  rw [rateValue, rateValue, mul_div_assoc,
    rounded_two_mul ((h.spans_mean.div spans ne).normal (by decide))]

theorem twice_getD (h : Measured counts) (twice : Measured (counts.map (2 * ·))) (i : Nat) :
    Twice (Binary64.ofNat (counts.getD i 0)) (Binary64.ofNat ((counts.map (2 * ·)).getD i 0)) := by
  have double : (counts.map (2 * ·)).getD i 0 = 2 * counts.getD i 0 := by
    simp only [List.getD_eq_getElem?_getD, List.getElem?_map]
    cases counts[i]? with
    | none => rfl
    | some c => rfl
  have stands := twice.stands_getD i
  rw [double, rounded_double (h.getD_lt i)] at stands
  rw [double]
  exact twice_of_stands (h.stands_getD i) stands

theorem twice_measures (h : Measured counts) (small : ∀ c ∈ counts, c < 2 ^ 63)
    (some_characters : characters ≠ 0) (word : characters < UInt64.size) :
    ∀ measure ∈ measures, Twice (measure (ofSorted counts characters))
      (measure (ofSorted (counts.map (2 * ·)) characters)) := by
  have twice := h.double small
  have mean := twice.stands_mean
  have stdev := twice.stands_stdev
  have rate := stands_rate twice.stands_mean twice.spans_mean some_characters word
  rw [h.meanValue_double] at mean stdev rate
  rw [h.stdevValue_double] at stdev
  rw [h.rateValue_double some_characters word] at rate
  rw [forall_mem_measures]
  simp only [mean_ofSorted, p50_ofSorted, p95_ofSorted, stdev_ofSorted, perThousand_ofSorted,
    List.length_map]
  refine ⟨?_, h.twice_getD twice _, h.twice_getD twice _, ?_, ?_⟩
  · exact twice_of_stands h.stands_mean mean
  · exact twice_of_stands h.stands_stdev stdev
  · exact twice_of_stands (stands_rate h.stands_mean h.spans_mean some_characters word) rate

end Measured

theorem doubled_counts_double_measures (some : counts ≠ []) (many : counts.length ≤ 2 ^ 60)
    (small : ∀ c ∈ counts, c < 2 ^ 63) (hchars : 1 ≤ characters) (word : characters < UInt64.size) :
    ∃ summary doubled, summarize counts characters = .ok summary ∧
      summarize (counts.map (2 * ·)) characters = .ok doubled ∧
      doubled.trials = summary.trials ∧
      ∀ measure ∈ measures, Twice (measure summary) (measure doubled) := by
  have nonzero : characters ≠ 0 := Nat.one_le_iff_ne_zero.mp hchars
  have words : ∀ c ∈ counts, c < UInt64.size := fun c hc => (small c hc).trans (by decide)
  have sorted := Measured.mergeSort ⟨some, many, words⟩
  have small_sorted : ∀ c ∈ counts.mergeSort, c < 2 ^ 63 :=
    fun c hc => small c (List.mem_mergeSort.mp hc)
  have some_doubled : counts.map (2 * ·) ≠ [] := fun none => some (List.map_eq_nil_iff.mp none)
  have doubled := summarize_eq_ok some_doubled nonzero
  rw [mergeSort_map_double] at doubled
  refine ⟨_, _, summarize_eq_ok some nonzero, doubled, ?_, ?_⟩
  · rw [trials_ofSorted, trials_ofSorted, List.length_map]
  · exact sorted.twice_measures small_sorted nonzero word

/-- A count that is rounded, and one that is lost beside it. -/
theorem doubled_counts_double_measures_rounded :
    let counts := [9223372036854775807, 1]
    (counts ≠ [] ∧ counts.length ≤ 2 ^ 60 ∧ (∀ c ∈ counts, c < 2 ^ 63) ∧ 1 ≤ 7 ∧ 7 < UInt64.size) ∧
      ∃ summary doubled, summarize counts 7 = .ok summary ∧
        summarize [18446744073709551614, 2] 7 = .ok doubled ∧ doubled.trials = summary.trials ∧
        ∀ measure ∈ measures, Twice (measure summary) (measure doubled) := by
  intro counts
  have some : counts ≠ [] := by decide
  have many : counts.length ≤ 2 ^ 60 := by decide
  have small : ∀ c ∈ counts, c < 2 ^ 63 := by decide
  have word : 7 < UInt64.size := by decide
  exact ⟨⟨some, many, small, by decide, word⟩,
    doubled_counts_double_measures some many small (by decide) word⟩

end TokenSurvey.Statistics
