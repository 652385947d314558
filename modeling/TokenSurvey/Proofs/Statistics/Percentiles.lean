import Mathlib.Algebra.Order.Floor.Semiring
import Mathlib.Data.Nat.Cast.Order.Field
import Mathlib.Tactic.NormNum
import TokenSurvey.Proofs.Binary64.Rounding
import TokenSurvey.Proofs.Statistics.Order

/-! The places of the percentiles. The factor of the upper one is a little less than nineteen
twentieths, and its product with the number of counts is rounded; for as many counts as `2 ^ 48` the
two together never move the place. -/
namespace TokenSurvey.Statistics

open Binary64

variable {n : Nat} {counts : List Nat}

/-- The factor that the format has instead of nineteen twentieths. -/
def factor : Rat := 8556839292003942 / 2 ^ 53

theorem view_nineteenTwentieths : nineteenTwentieths.view = .finite factor := by
  have value : rounded (19 / 20) = factor := by decide +kernel
  have small : (19 / 20 : Rat) < (2 : Rat) ^ (1023 : Int) :=
    calc (19 / 20 : Rat) < (2 : Rat) ^ (0 : Int) := by norm_num
      _ < (2 : Rat) ^ (1023 : Int) := zpow_lt_zpow_right₀ one_lt_two (by decide)
  rw [nineteenTwentieths, ofRat, view_round false (by norm_num) small, value]

theorem share_pos (hn : 1 ≤ n) : 0 < factor * n :=
  mul_pos (by norm_num [factor]) (by exact_mod_cast hn)

theorem share_lt (hmax : n ≤ 2 ^ 48) : factor * n < (2 : Rat) ^ (48 : Int) := by
  have : (n : Rat) ≤ 2 ^ 48 := by exact_mod_cast hmax
  norm_num [factor]
  linarith

theorem view_share (hn : 1 ≤ n) (hmax : n ≤ 2 ^ 48) :
    (nineteenTwentieths * Binary64.ofNat n).view = .finite (rounded (factor * n)) := by
  have fits : n ≤ 2 * octaveSize := hmax.trans (by decide)
  have small : factor * n < (2 : Rat) ^ (1023 : Int) :=
    (share_lt hmax).trans (zpow_lt_zpow_right₀ one_lt_two (by decide))
  rw [mul_of_view view_nineteenTwentieths (view_ofNat fits), view_round _ (share_pos hn) small]

/-- The exact share is not less than a twentieth past the whole number before it. -/
theorem ceil_sub_one_add_le (n : Nat) :
    (⌈(19 / 20 : Rat) * n⌉₊ : Rat) - 1 + 1 / 20 ≤ 19 / 20 * n := by
  have close := Nat.ceil_lt_add_one (show 0 ≤ (19 / 20 : Rat) * n by positivity)
  generalize ⌈(19 / 20 : Rat) * n⌉₊ = c at close
  have : 20 * c < 19 * n + 20 := by
    have : (20 * c : Rat) < 19 * n + 20 := by linarith
    exact_mod_cast this
  have : (20 * c + 1 : Rat) ≤ 19 * n + 20 := by exact_mod_cast Nat.succ_le_of_lt this
  linarith

/-- The factor takes away less than an eightieth. -/
theorem factor_mul_bounds (hmax : n ≤ 2 ^ 48) :
    19 / 20 * n - 1 / 80 ≤ factor * n ∧ factor * n ≤ 19 / 20 * n := by
  have many : (n : Rat) ≤ 2 ^ 48 := by exact_mod_cast hmax
  have nonneg : (0 : Rat) ≤ n := Nat.cast_nonneg n
  norm_num [factor]
  constructor <;> linarith

theorem ceil_share_le (n : Nat) : ⌈(19 / 20 : Rat) * n⌉₊ ≤ n := by
  have nonneg : (0 : Rat) ≤ n := Nat.cast_nonneg n
  exact Nat.ceil_le.mpr (by linarith)

theorem rounded_share_bounds (hn : 1 ≤ n) (hmax : n ≤ 2 ^ 48) :
    (⌈(19 / 20 : Rat) * n⌉₊ : Rat) - 1 < rounded (factor * n) ∧
      rounded (factor * n) ≤ ⌈(19 / 20 : Rat) * n⌉₊ := by
  obtain ⟨near, less⟩ := factor_mul_bounds hmax
  constructor
  · have close := sub_le_rounded (e := 48) (share_pos hn) (share_lt hmax) (by decide)
    rw [show (2 : Rat) ^ (48 - 54 : Int) = 1 / 64 by norm_num] at close
    have gap := ceil_sub_one_add_le n
    linarith
  · apply rounded_le_natCast (share_pos hn) (less.trans (Nat.le_ceil _))
    exact (ceil_share_le n).trans (hmax.trans (by decide))

/-- Rounded up, the product is the exact share of the counts rounded up. -/
theorem ceil_share (hn : 1 ≤ n) (hmax : n ≤ 2 ^ 48) :
    (nineteenTwentieths * Binary64.ofNat n).ceil = ⌈(19 / 20 : Rat) * n⌉₊ := by
  obtain ⟨lower, upper⟩ := rounded_share_bounds hn hmax
  rw [ceil_of_view (view_share hn hmax)]
  generalize ⌈(19 / 20 : Rat) * n⌉₊ = c at lower upper
  have most : (rounded (factor * n)).ceil ≤ c := Rat.ceil_le_iff.mpr upper
  have least : (c : Int) - 1 < (rounded (factor * n)).ceil := by
    apply Rat.lt_ceil_iff.mpr
    push_cast
    exact lower
  omega

theorem p95Index_eq (hn : 1 ≤ n) (hmax : n ≤ 2 ^ 48) :
    p95Index n = ⌈(19 / 20 : Rat) * n⌉₊ - 1 := by
  have inside := ceil_share_le n
  rw [p95Index, ceil_share hn hmax]
  omega

/-- The upper percentile does not come before the middle. -/
theorem medianIndex_le_p95Index (hn : 1 ≤ n) (hmax : n ≤ 2 ^ 48) : medianIndex n ≤ p95Index n := by
  have pos : (0 : Rat) < n := by exact_mod_cast hn
  have half : medianIndex n < ⌈(19 / 20 : Rat) * n⌉₊ := by
    apply Nat.lt_ceil.mpr
    have : ((n / 2 : Nat) : Rat) ≤ n / 2 := Nat.cast_div_le
    rw [medianIndex]
    linarith
  rw [p95Index_eq hn hmax]
  omega

theorem percentiles_are_order_statistics {counts : List Nat} {characters : Nat}
    (hn : 1 ≤ counts.length) (hmax : counts.length ≤ 2 ^ 48) (hchars : 1 ≤ characters) :
    ∃ summary v w, summarize counts characters = .ok summary ∧
      (∀ u, AtPlace counts (counts.length / 2) u ↔ u = v) ∧ summary.p50 = Binary64.ofNat v ∧
      (∀ u, AtPlace counts (⌈(19 / 20 : Rat) * counts.length⌉₊ - 1) u ↔ u = w) ∧
      summary.p95 = Binary64.ofNat w ∧ v ≤ w ∧ summary.p50 ≤ summary.p95 ∧
      (nineteenTwentieths * Binary64.ofNat counts.length).ceil =
        ⌈(19 / 20 : Rat) * counts.length⌉₊ ∧
      (nineteenTwentieths * Binary64.ofNat counts.length).ceil - 1 ≤ counts.length - 1 := by
  have place := p95Index_eq hn hmax
  have inside := ceil_share_le counts.length
  have some_counts : counts ≠ [] := List.length_pos_iff.mp hn
  have median := atPlace_mergeSort (show medianIndex counts.length < counts.length from
    Nat.div_lt_self hn one_lt_two)
  have upper := atPlace_mergeSort (show p95Index counts.length < counts.length by omega)
  have le := median.mono upper (medianIndex_le_p95Index hn hmax)
  refine ⟨ofSorted counts.mergeSort characters, _, _, ?_, ?_, ?_, ?_, ?_, le, ?_,
    ceil_share hn hmax, ?_⟩
  · rw [summarize, if_neg some_counts, if_neg (by omega)]
  · exact fun u => ⟨fun h => h.unique median, fun h => h ▸ median⟩
  · rw [ofSorted, List.length_mergeSort]
  · rw [← place]
    exact fun u => ⟨fun h => h.unique upper, fun h => h ▸ upper⟩
  · rw [ofSorted, List.length_mergeSort]
  · rw [ofSorted, List.length_mergeSort]
    exact ofNat_mono le
  · rw [ceil_share hn hmax]
    omega

/-- Twenty counts, where the exact share is a whole number and the factor falls short of it. -/
theorem percentiles_are_order_statistics_twenty :
    let counts := (List.range' 1 20).reverse
    (1 ≤ counts.length ∧ counts.length ≤ 2 ^ 48 ∧ 1 ≤ 1000) ∧
      ∃ summary, summarize counts 1000 = .ok summary ∧ summary.p50 = Binary64.ofNat 11 ∧
        summary.p95 = Binary64.ofNat 19 ∧ summary.p50 ≤ summary.p95 := by
  intro counts
  have hn : 1 ≤ counts.length := by decide
  have hmax : counts.length ≤ 2 ^ 48 := by decide
  obtain ⟨summary, v, w, summarized, median, hv, upper, hw, -, le, -⟩ :=
    percentiles_are_order_statistics hn hmax (show 1 ≤ 1000 by decide)
  have share : ⌈(19 / 20 : Rat) * counts.length⌉₊ = 19 := by
    rw [show (19 / 20 : Rat) * counts.length = (19 : Nat) by norm_num [counts], Nat.ceil_natCast]
  rw [share] at upper
  obtain rfl := (median 11).mp (by decide)
  obtain rfl := (upper 19).mp (by decide)
  exact ⟨⟨hn, hmax, by decide⟩, summary, summarized, hv, hw, le⟩

end TokenSurvey.Statistics
