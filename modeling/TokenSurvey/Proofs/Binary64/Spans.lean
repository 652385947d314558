import TokenSurvey.Proofs.Binary64.Rounding

/-! Quantities that are zero or stand between two powers of two. Rounding leaves them there, and away
from the smallest steps it takes a double quantity to the double. -/
namespace TokenSurvey.Binary64

open Rounding (binaryExponent_two_mul le_binaryExponent_iff)

variable {a b p q : Rat} {e lo hi lo' hi' : Int}

@[simp] theorem rounded_zero : rounded 0 = 0 :=
  rounded_of_whole (z := 0) (by simp)

theorem rounded_le_rounded (hp : 0 ≤ p) (h : p ≤ q) : rounded p ≤ rounded q := by
  rcases hp.eq_or_lt with rfl | hpos
  · rcases h.eq_or_lt with rfl | hq
    · exact le_rfl
    · rw [rounded_zero, ← magnitude_endlessRank hq, ← magnitude_zero]
      exact magnitude_strictMono.monotone (Nat.zero_le _)
  · exact rounded_mono hpos h

theorem rounded_nonneg (hq : 0 ≤ q) : 0 ≤ rounded q := by
  have h := rounded_le_rounded le_rfl hq
  rwa [rounded_zero] at h

theorem rounded_two_zpow (he : -1074 ≤ e) : rounded ((2 : Rat) ^ e) = (2 : Rat) ^ e := by
  have h := rounded_steps (m := 1) (by decide) he
  simpa using h

/-! Doubling. -/

theorem stepOf_two_mul (hq : (2 : Rat) ^ (-1022 : Int) ≤ q) : stepOf (2 * q) = stepOf q + 1 := by
  have pos : 0 < q := (zpow_pos two_pos _).trans_le hq
  have normal := (le_binaryExponent_iff pos).mpr hq
  rw [stepOf_eq_max, stepOf_eq_max, binaryExponent_two_mul pos]
  omega

theorem rounded_two_mul (h : q = 0 ∨ (2 : Rat) ^ (-1022 : Int) ≤ q) :
    rounded (2 * q) = 2 * rounded q := by
  rcases h with rfl | hq
  · simp
  · -- twice as much is as many steps of twice the size
    have steps : stepsOf (2 * q) = stepsOf q := by
      unfold stepsOf
      rw [stepOf_two_mul hq, zpow_add_one₀ two_ne_zero, mul_comm 2 q,
        mul_div_mul_right q _ two_ne_zero]
    rw [rounded, rounded, steps, stepOf_two_mul hq, zpow_add_one₀ two_ne_zero]
    ring

/-- Zero, or between two powers of two. -/
structure Spans (lo hi : Int) (q : Rat) : Prop where
  least : q = 0 ∨ (2 : Rat) ^ lo ≤ q
  most : q ≤ (2 : Rat) ^ hi

namespace Spans

theorem zero (lo hi : Int) : Spans lo hi 0 :=
  ⟨Or.inl rfl, (zpow_pos two_pos hi).le⟩

theorem nonneg (h : Spans lo hi q) : 0 ≤ q := by
  rcases h.least with rfl | least
  · exact le_rfl
  · exact (zpow_pos two_pos lo).le.trans least

theorem mono (h : Spans lo hi q) (hlo : lo' ≤ lo) (hhi : hi ≤ hi') : Spans lo' hi' q := by
  refine ⟨?_, h.most.trans (zpow_le_zpow_right₀ one_le_two hhi)⟩
  rcases h.least with rfl | least
  · exact Or.inl rfl
  · exact Or.inr ((zpow_le_zpow_right₀ one_le_two hlo).trans least)

/-- What is far enough below the largest number of the format. -/
theorem lt (h : Spans lo hi q) (hhi : hi < 1023) : q < (2 : Rat) ^ (1023 : Int) :=
  h.most.trans_lt (zpow_lt_zpow_right₀ one_lt_two hhi)

theorem normal (h : Spans lo hi q) (hlo : -1022 ≤ lo) : q = 0 ∨ (2 : Rat) ^ (-1022 : Int) ≤ q :=
  (h.mono hlo le_rfl).least

theorem rounded (h : Spans lo hi q) (hlo : -1074 ≤ lo) (hhi : -1074 ≤ hi) :
    Spans lo hi (rounded q) := by
  constructor
  · rcases h.least with rfl | least
    · exact Or.inl rounded_zero
    · rw [← rounded_two_zpow hlo]
      exact Or.inr (rounded_le_rounded (zpow_pos two_pos lo).le least)
  · rw [← rounded_two_zpow hhi]
    exact rounded_le_rounded h.nonneg h.most

theorem rounded_eq_zero_iff (h : Spans lo hi q) (hlo : -1074 ≤ lo) :
    Binary64.rounded q = 0 ↔ q = 0 := by
  constructor
  · intro hzero
    rcases h.least with rfl | least
    · rfl
    · have pos := zpow_pos (two_pos : (0 : Rat) < 2) lo
      have := rounded_le_rounded pos.le least
      rw [rounded_two_zpow hlo] at this
      linarith
  · rintro rfl
    exact rounded_zero

theorem two_mul (h : Spans lo hi q) : Spans (lo + 1) (hi + 1) (2 * q) := by
  constructor
  · rcases h.least with rfl | least
    · exact Or.inl (mul_zero 2)
    · rw [zpow_add_one₀ two_ne_zero, mul_comm 2 q]
      exact Or.inr (mul_le_mul_of_nonneg_right least two_pos.le)
  · rw [zpow_add_one₀ two_ne_zero, mul_comm]
    exact mul_le_mul_of_nonneg_right h.most two_pos.le

theorem mul (ha : Spans lo hi a) (hb : Spans lo' hi' b) : Spans (lo + lo') (hi + hi') (a * b) := by
  constructor
  · rcases ha.least with rfl | least
    · exact Or.inl (zero_mul b)
    rcases hb.least with rfl | least'
    · exact Or.inl (mul_zero a)
    rw [zpow_add₀ two_ne_zero]
    exact Or.inr (mul_le_mul least least' (zpow_pos two_pos _).le ha.nonneg)
  · rw [zpow_add₀ two_ne_zero]
    exact mul_le_mul ha.most hb.most hb.nonneg (zpow_pos two_pos _).le

theorem inv (h : Spans lo hi q) (hq : q ≠ 0) : Spans (-hi) (-lo) q⁻¹ := by
  have least := h.least.resolve_left hq
  have pos := (zpow_pos (two_pos : (0 : Rat) < 2) lo).trans_le least
  rw [← inv_inv q] at pos
  constructor
  · rw [zpow_neg]
    exact Or.inr ((inv_le_inv₀ (zpow_pos two_pos _) (inv_inv q ▸ pos)).mpr h.most)
  · rw [zpow_neg]
    exact (inv_le_inv₀ (inv_inv q ▸ pos) (zpow_pos two_pos _)).mpr least

theorem div (ha : Spans lo hi a) (hb : Spans lo' hi' b) (hne : b ≠ 0) :
    Spans (lo - hi') (hi - lo') (a / b) := by
  rw [div_eq_mul_inv, sub_eq_add_neg, sub_eq_add_neg]
  exact ha.mul (hb.inv hne)

theorem add (ha : Spans lo hi a) (hb : Spans lo hi' b) :
    Spans lo (max hi hi' + 1) (a + b) := by
  constructor
  · rcases ha.least with rfl | least
    · rw [zero_add]
      exact hb.least
    · exact Or.inr (least.trans (le_add_of_nonneg_right hb.nonneg))
  · have left := (ha.mono le_rfl (le_max_left hi hi')).most
    have right := (hb.mono le_rfl (le_max_right hi hi')).most
    rw [zpow_add_one₀ two_ne_zero, mul_two]
    exact add_le_add left right

theorem natCast {n k : Nat} (h : n ≤ 2 ^ k) : Spans 0 k n := by
  constructor
  · rcases Nat.eq_zero_or_pos n with rfl | pos
    · exact Or.inl Nat.cast_zero
    · rw [zpow_zero]
      exact Or.inr (by exact_mod_cast pos)
  · rw [zpow_natCast]
    exact_mod_cast h

/-- The steps next to a quantity that is not too small are not too small. -/
theorem exists_rounded_eq (h : Spans lo hi q) :
    ∃ z : Int, Binary64.rounded q = z * (2 : Rat) ^ (lo - 52) := by
  rcases h.least with rfl | least
  · exact ⟨0, by simp⟩
  · have pos : 0 < q := (zpow_pos two_pos _).trans_le least
    have exponent := (le_binaryExponent_iff pos).mpr least
    have coarse : 0 ≤ stepOf q - (lo - 52) := by
      rw [stepOf_eq_max]
      omega
    obtain ⟨d, hd⟩ := Int.eq_ofNat_of_zero_le coarse
    refine ⟨stepsOf q * 2 ^ d, ?_⟩
    rw [Binary64.rounded, show stepOf q = d + (lo - 52) by omega, zpow_add₀ two_ne_zero,
      zpow_natCast]
    push_cast
    ring

/-- Two numbers that are not the same are not too close. -/
theorem abs_sub (ha : Spans lo hi a) (hb : Spans lo hi b) (hlo : -1074 ≤ lo) (hhi : -1074 ≤ hi) :
    Spans (lo - 52) hi |Binary64.rounded a - Binary64.rounded b| := by
  obtain ⟨z, hz⟩ := ha.exists_rounded_eq
  obtain ⟨w, hw⟩ := hb.exists_rounded_eq
  have unit : 0 < (2 : Rat) ^ (lo - 52) := zpow_pos two_pos _
  constructor
  · rw [hz, hw, ← sub_mul, abs_mul, abs_of_pos unit]
    by_cases hzw : z = w
    · left
      simp [hzw]
    · right
      have apart : (1 : Rat) ≤ |(z : Rat) - w| := by
        have : 1 ≤ |z - w| := Int.one_le_abs (sub_ne_zero.mpr hzw)
        exact_mod_cast this
      exact le_mul_of_one_le_left unit.le apart
  · have ha' := ha.rounded hlo hhi
    have hb' := hb.rounded hlo hhi
    exact abs_sub_le_of_nonneg_of_le ha'.nonneg ha'.most hb'.nonneg hb'.most

end Spans
end TokenSurvey.Binary64
