import Mathlib.Algebra.Order.BigOperators.Group.List
import TokenSurvey.Proofs.Binary64.Nearest
import TokenSurvey.Proofs.Statistics.Values

/-! Counts whose total the format holds exactly: no partial sum is rounded, so that the mean is the exact
average rounded once, and there is a deviation if and only if two counts differ. -/
namespace TokenSurvey.Statistics

open Binary64

variable {counts : List Nat} {characters k : Nat}

/-- Some counts, as many as are told apart, and a total that is told from its neighbours. -/
structure Exact (counts : List Nat) : Prop where
  some : counts ≠ []
  many : counts.length ≤ 2 ^ 53
  total : counts.sum ≤ 2 ^ 53

namespace Exact

theorem le_of_mem (h : Exact counts) {c : Nat} (hc : c ∈ counts) : c ≤ 2 * octaveSize :=
  (List.le_sum_of_mem hc).trans h.total

theorem measured (h : Exact counts) : Measured counts where
  some := h.some
  many := h.many.trans (by decide)
  words := fun _ hc => (h.le_of_mem hc).trans_lt (by decide)

theorem mergeSort (h : Exact counts) : Exact counts.mergeSort where
  some := h.measured.mergeSort.some
  many := (List.length_mergeSort counts).trans_le h.many
  total := (List.mergeSort_perm counts _).sum_eq.trans_le h.total

theorem length_pos (h : Exact counts) : (0 : Rat) < counts.length := by
  exact_mod_cast List.length_pos_iff.mpr h.some

theorem meanValue_eq (h : Exact counts) :
    meanValue counts = rounded (counts.sum / counts.length) := by
  have exact_counts : counts.map (fun c : Nat => rounded c) = counts.map Nat.cast :=
    List.map_congr_left fun c hc => rounded_natCast (h.le_of_mem hc)
  rw [meanValue, averageValue, exact_counts, roundedSum_natCast h.total, rounded_natCast h.many]

theorem average_le (h : Exact counts) (most : ∀ c ∈ counts, c ≤ k) :
    (counts.sum : Rat) / counts.length ≤ k := by
  rw [div_le_iff₀ h.length_pos, mul_comm]
  exact_mod_cast List.sum_le_card_nsmul counts k most

theorem le_average (h : Exact counts) (least : ∀ c ∈ counts, k ≤ c) :
    (k : Rat) ≤ counts.sum / counts.length := by
  rw [le_div_iff₀ h.length_pos, mul_comm]
  exact_mod_cast List.card_nsmul_le_sum counts k least

theorem average_lt (h : Exact counts) :
    (counts.sum : Rat) / counts.length < (2 : Rat) ^ (1023 : Int) := by
  apply (h.average_le (k := 2 * octaveSize) fun _ => h.le_of_mem).trans_lt
  rw [cast_two_mul_octaveSize]
  exact zpow_lt_zpow_right₀ one_lt_two (by decide)

theorem average_nonneg (counts : List Nat) : (0 : Rat) ≤ counts.sum / counts.length := by
  positivity

theorem meanOf_eq (h : Exact counts) :
    meanOf counts = Binary64.ofRat (counts.sum / counts.length) := by
  have mean := h.measured.stands_mean
  rw [h.meanValue_eq] at mean
  exact mean.unique (Stands.ofRat (average_nonneg counts) h.average_lt)

/-- The rounded average is still between the counts. -/
theorem meanValue_le (h : Exact counts) (hk : k ∈ counts) (most : ∀ c ∈ counts, c ≤ k) :
    meanValue counts ≤ k := by
  rw [h.meanValue_eq, ← rounded_natCast (h.le_of_mem hk)]
  exact rounded_le_rounded (average_nonneg counts) (h.average_le most)

theorem le_meanValue (h : Exact counts) (hk : k ∈ counts) (least : ∀ c ∈ counts, k ≤ c) :
    k ≤ meanValue counts := by
  rw [h.meanValue_eq, ← rounded_natCast (h.le_of_mem hk)]
  exact rounded_le_rounded k.cast_nonneg (h.le_average least)

theorem meanValue_between (h : Exact counts) :
    ∃ least ∈ counts, ∃ most ∈ counts, (∀ c ∈ counts, least ≤ c ∧ c ≤ most) ∧
      least ≤ meanValue counts ∧ meanValue counts ≤ most := by
  obtain ⟨least, hleast⟩ := Option.isSome_iff_exists.mp (List.isSome_min?_of_ne_nil h.some)
  obtain ⟨most, hmost⟩ := Option.isSome_iff_exists.mp (List.isSome_max?_of_ne_nil h.some)
  obtain ⟨least_mem, below⟩ := List.min?_eq_some_iff.mp hleast
  obtain ⟨most_mem, above⟩ := List.max?_eq_some_iff.mp hmost
  exact ⟨least, least_mem, most, most_mem, fun c hc => ⟨below c hc, above c hc⟩,
    h.le_meanValue least_mem below, h.meanValue_le most_mem above⟩

theorem meanValue_of_const (h : Exact counts) (hk : ∀ c ∈ counts, c = k) : meanValue counts = k := by
  obtain ⟨c, hc⟩ := List.exists_mem_of_ne_nil counts h.some
  obtain rfl := hk c hc
  apply le_antisymm
  · exact h.meanValue_le hc fun d hd => (hk d hd).le
  · exact h.le_meanValue hc fun d hd => (hk d hd).ge

theorem stdevValue_eq_zero_iff (h : Exact counts) :
    stdevValue counts (meanValue counts) = 0 ↔ ∀ a ∈ counts, ∀ b ∈ counts, a = b := by
  have exact_count : ∀ c ∈ counts, rounded c = c := fun c hc => rounded_natCast (h.le_of_mem hc)
  constructor
  · intro none
    unfold stdevValue at none
    split_ifs at none with several
    · have variance : varianceValue counts (meanValue counts) = 0 := by
        by_contra ne
        exact (roundedRoot_pos (h.measured.variance_least.resolve_left ne)).ne' none
      have same := h.measured.variance_eq_zero_iff.mp variance
      intro a ha b hb
      have : (a : Rat) = b := by
        rw [← exact_count a ha, ← exact_count b hb, same a ha, same b hb]
      exact_mod_cast this
    · obtain ⟨c, rfl⟩ := List.length_eq_one_iff.mp
        (le_antisymm (not_lt.mp several) (List.length_pos_iff.mpr h.some))
      simp
  · intro same
    obtain ⟨k, hk⟩ := List.exists_mem_of_ne_nil counts h.some
    have mean := h.meanValue_of_const fun c hc => same c hc k hk
    have variance : varianceValue counts (meanValue counts) = 0 := by
      rw [h.measured.variance_eq_zero_iff, mean]
      intro c hc
      rw [exact_count c hc, same c hc k hk]
    rw [stdevValue, variance, roundedRoot_zero, ite_self]

theorem view_getD_of_const {i : Nat} (h : Exact counts) (hk : ∀ c ∈ counts, c = k)
    (hi : i < counts.length) : (Binary64.ofNat (counts.getD i 0)).view = .finite k := by
  have mem : counts[i] ∈ counts := List.getElem_mem hi
  rw [List.getD_eq_getElem?_getD, List.getElem?_eq_getElem hi, Option.getD_some,
    view_ofNat (h.le_of_mem mem), hk _ mem]

/-- Where all counts are the same, so are the mean and the percentiles. -/
theorem views_of_const (h : Exact counts) (hk : ∀ c ∈ counts, c = k) :
    let summary := ofSorted counts characters
    summary.mean.view = .finite k ∧ summary.p50.view = .finite k ∧ summary.p95.view = .finite k := by
  have some_counts := List.length_pos_iff.mpr h.some
  refine ⟨?_, ?_, ?_⟩
  · rw [mean_ofSorted, h.measured.stands_mean.view, h.meanValue_of_const hk]
  · rw [p50_ofSorted]
    exact h.view_getD_of_const hk (medianIndex_lt some_counts)
  · rw [p95_ofSorted]
    exact h.view_getD_of_const hk (p95Index_lt some_counts)

end Exact

theorem summary_is_exact (some : counts ≠ []) (many : counts.length ≤ 2 ^ 53)
    (total : counts.sum ≤ 2 ^ 53) (hchars : 1 ≤ characters) :
    ∃ summary mean stdev, summarize counts characters = .ok summary ∧
      summary.mean = Binary64.ofRat (counts.sum / counts.length) ∧
      IsNearest summary.mean (counts.sum / counts.length) ∧
      summary.mean.view = .finite mean ∧
      (∃ least ∈ counts, ∃ most ∈ counts, (∀ c ∈ counts, least ≤ c ∧ c ≤ most) ∧
        least ≤ mean ∧ mean ≤ most) ∧
      summary.stdev.view = .finite stdev ∧
      (stdev = 0 ↔ ∀ a ∈ counts, ∀ b ∈ counts, a = b) ∧
      ∀ k, (∀ c ∈ counts, c = k) → summary.mean.view = .finite k ∧
        summary.p50.view = .finite k ∧ summary.p95.view = .finite k := by
  have h : Exact counts := ⟨some, many, total⟩
  have sorted := h.mergeSort
  have mean := sorted.measured.stands_mean
  have stdev := sorted.measured.stands_stdev
  have mean_eq := sorted.meanOf_eq
  rw [(List.mergeSort_perm counts _).sum_eq, List.length_mergeSort] at mean_eq
  have summarized := summarize_eq_ok some (Nat.one_le_iff_ne_zero.mp hchars)
  refine ⟨ofSorted counts.mergeSort characters, meanValue counts.mergeSort,
    stdevValue counts.mergeSort (meanValue counts.mergeSort), summarized, ?_, ?_, ?_, ?_, ?_, ?_, ?_⟩
  · rw [mean_ofSorted]
    exact mean_eq
  · rw [mean_ofSorted, mean_eq]
    exact isNearest_ofRat (Exact.average_nonneg counts) h.average_lt
  · rw [mean_ofSorted]
    exact mean.view
  · have between := sorted.meanValue_between
    simp only [List.mem_mergeSort] at between
    exact between
  · rw [stdev_ofSorted]
    exact stdev.view
  · rw [sorted.stdevValue_eq_zero_iff]
    simp only [List.mem_mergeSort]
  · intro k hk
    exact sorted.views_of_const fun c hc => hk c (List.mem_mergeSort.mp hc)

/-- The greatest total there may be, which is no multiple of the number of counts. -/
theorem summary_is_exact_thirds :
    let counts := [9007199254740990, 1, 1]
    (counts ≠ [] ∧ counts.length ≤ 2 ^ 53 ∧ counts.sum ≤ 2 ^ 53 ∧ 1 ≤ 100) ∧
      ∃ summary mean stdev, summarize counts 100 = .ok summary ∧
        summary.mean = Binary64.ofRat (9007199254740992 / 3) ∧
        summary.mean.view = .finite mean ∧ 1 ≤ mean ∧ mean ≤ 9007199254740990 ∧
        summary.stdev.view = .finite stdev ∧ stdev ≠ 0 := by
  intro counts
  have some : counts ≠ [] := by decide
  have many : counts.length ≤ 2 ^ 53 := by decide
  have total : counts.sum ≤ 2 ^ 53 := by decide
  obtain ⟨summary, mean, stdev, summarized, mean_eq, -, mean_view, ⟨least, hleast, most, hmost, -,
    low, high⟩, stdev_view, zero_iff, -⟩ := summary_is_exact some many total (show 1 ≤ 100 by decide)
  have inside : ∀ c ∈ counts, 1 ≤ c ∧ c ≤ 9007199254740990 := by decide
  refine ⟨⟨some, many, total, by decide⟩, summary, mean, stdev, summarized, ?_, mean_view, ?_, ?_,
    stdev_view, ?_⟩
  · simpa [counts] using mean_eq
  · exact le_trans (by exact_mod_cast (inside least hleast).1) low
  · exact high.trans (by exact_mod_cast (inside most hmost).2)
  · intro none
    have same := zero_iff.mp none 9007199254740990 (by decide) 1 (by decide)
    exact absurd same (by decide)

end TokenSurvey.Statistics
