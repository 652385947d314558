import TokenSurvey.Binary64.Arithmetic
import TokenSurvey.Proofs.Binary64.Places
import TokenSurvey.Proofs.Rounding

/-! What a quantity is rounded to: a whole number of steps, no further away than half of one. Rounding
keeps the order, and what the format has is not changed. -/
namespace TokenSurvey.Binary64

open Rounding (nearest binaryExponent binaryExponent_bounds binaryExponent_mono
  binaryExponent_lt_iff nearest_bounds nearest_mono nearest_intCast)

variable {p q : Rat} {k m n : Nat}

/-- The size of the steps next to a quantity, as a power of two. -/
def stepOf (q : Rat) : Int := stepExponent (binaryExponent q)

def stepsOf (q : Rat) : Int := nearest (q / (2 : Rat) ^ stepOf q)

/-- The nearest quantity of the format, if there were no largest one. -/
def rounded (q : Rat) : Rat := stepsOf q * (2 : Rat) ^ stepOf q

/-- The place of that quantity. -/
def endlessRank (q : Rat) : Nat := ((stepOf q + 1074) * octaveSize + stepsOf q).toNat

theorem nearestRank_eq_min (q : Rat) : nearestRank q = min infiniteRank (endlessRank q) := rfl

theorem cast_octaveSize : (octaveSize : Rat) = (2 : Rat) ^ (52 : Int) := by decide +kernel

theorem cast_two_mul_octaveSize : ((2 * octaveSize : Nat) : Rat) = (2 : Rat) ^ (53 : Int) := by
  decide +kernel

theorem nearest_le_of_le_intCast {z : Int} (h : q ≤ z) : nearest q ≤ z := by
  rw [← nearest_intCast z]
  exact nearest_mono h

theorem le_nearest_of_intCast_le {z : Int} (h : (z : Rat) ≤ q) : z ≤ nearest q := by
  rw [← nearest_intCast z]
  exact nearest_mono h

theorem stepOf_eq_max (q : Rat) : stepOf q = max (binaryExponent q - 52) (-1074) := rfl

theorem stepOf_mono (hp : 0 < p) (h : p ≤ q) : stepOf p ≤ stepOf q := by
  have := binaryExponent_mono hp h
  rw [stepOf_eq_max, stepOf_eq_max]
  omega

/-- Below a power of two the steps are so much smaller. -/
theorem stepOf_le_of_lt {e : Int} (hq : 0 < q) (h : q < (2 : Rat) ^ e) (he : -1021 ≤ e) :
    stepOf q ≤ e - 53 := by
  have := (binaryExponent_lt_iff hq).mpr h
  rw [stepOf_eq_max]
  omega

theorem stepsOf_nonneg (hq : 0 < q) : 0 ≤ stepsOf q := by
  apply le_nearest_of_intCast_le
  rw [Int.cast_zero]
  exact (div_pos hq (zpow_pos two_pos _)).le

theorem stepsOf_le (hq : 0 < q) : stepsOf q ≤ (2 * octaveSize : Nat) := by
  apply nearest_le_of_le_intCast
  rw [div_le_iff₀ (zpow_pos two_pos _), Int.cast_natCast, cast_two_mul_octaveSize,
    ← zpow_add₀ two_ne_zero]
  have fits : binaryExponent q + 1 ≤ 53 + stepOf q := by
    rw [stepOf_eq_max]
    omega
  exact (binaryExponent_bounds hq).2.le.trans (zpow_le_zpow_right₀ one_le_two fits)

/-- Where the steps are not the smallest, they fill an octave. -/
theorem octaveSize_le_stepsOf (hq : 0 < q) (h : -1074 < stepOf q) :
    (octaveSize : Int) ≤ stepsOf q := by
  have exact_fit : stepOf q = binaryExponent q - 52 := by
    rw [stepOf_eq_max] at h ⊢
    omega
  apply le_nearest_of_intCast_le
  rw [le_div_iff₀ (zpow_pos two_pos _), exact_fit, Int.cast_natCast, cast_octaveSize,
    ← zpow_add₀ two_ne_zero, add_sub_cancel]
  exact (binaryExponent_bounds hq).1

theorem exists_steps_eq (hq : 0 < q) :
    ∃ k m : Nat, stepOf q = (k : Int) - 1074 ∧ stepsOf q = m ∧ endlessRank q = k * octaveSize + m ∧
      (k = 0 ∨ octaveSize ≤ m) ∧ m ≤ 2 * octaveSize := by
  have least : -1074 ≤ stepOf q := le_max_right ..
  have most := stepsOf_le hq
  obtain ⟨k, hk⟩ := Int.eq_ofNat_of_zero_le (show 0 ≤ stepOf q + 1074 by omega)
  obtain ⟨m, hm⟩ := Int.eq_ofNat_of_zero_le (stepsOf_nonneg hq)
  have place : endlessRank q = k * octaveSize + m := by
    rw [endlessRank, hk, hm]
    exact Int.toNat_natCast _
  refine ⟨k, m, by omega, hm, place, ?_, by omega⟩
  by_cases hsmall : k = 0
  · exact Or.inl hsmall
  · have full := octaveSize_le_stepsOf hq (by omega)
    exact Or.inr (by omega)

theorem magnitude_endlessRank (hq : 0 < q) : magnitude (endlessRank q) = rounded q := by
  obtain ⟨k, m, step, steps, place, low, high⟩ := exists_steps_eq hq
  rw [place, magnitude_steps low high, rounded, step, steps, Int.cast_natCast]

/-- A greater quantity has the greater step, or as many steps and more. -/
theorem endlessRank_mono (hp : 0 < p) (h : p ≤ q) : endlessRank p ≤ endlessRank q := by
  have hq := hp.trans_le h
  obtain ⟨k, m, step, steps, place, low, high⟩ := exists_steps_eq hp
  obtain ⟨k', m', step', steps', place', low', high'⟩ := exists_steps_eq hq
  rw [place, place']
  obtain same | less := (stepOf_mono hp h).eq_or_lt
  · have : stepsOf p ≤ stepsOf q := by
      unfold stepsOf
      rw [same]
      exact nearest_mono (div_le_div_of_nonneg_right h (zpow_pos two_pos _).le)
    obtain rfl : k = k' := by omega
    omega
  · have further : (k + 1) * octaveSize ≤ k' * octaveSize :=
      Nat.mul_le_mul_right octaveSize (by omega)
    rw [Nat.succ_mul] at further
    omega

theorem rounded_mono (hp : 0 < p) (h : p ≤ q) : rounded p ≤ rounded q := by
  rw [← magnitude_endlessRank hp, ← magnitude_endlessRank (hp.trans_le h)]
  exact magnitude_strictMono.monotone (endlessRank_mono hp h)

theorem rounded_bounds (q : Rat) :
    q - (2 : Rat) ^ stepOf q / 2 ≤ rounded q ∧ rounded q ≤ q + (2 : Rat) ^ stepOf q / 2 := by
  have unit : 0 < (2 : Rat) ^ stepOf q := zpow_pos two_pos _
  have whole : q / (2 : Rat) ^ stepOf q * (2 : Rat) ^ stepOf q = q := div_mul_cancel₀ q unit.ne'
  obtain ⟨low, high⟩ := nearest_bounds (q / (2 : Rat) ^ stepOf q)
  have low' := mul_le_mul_of_nonneg_right low unit.le
  have high' := mul_le_mul_of_nonneg_right high unit.le
  rw [sub_mul, whole] at low'
  rw [add_mul, whole] at high'
  change _ ≤ (stepsOf q : Rat) * _ ∧ (stepsOf q : Rat) * _ ≤ _
  unfold stepsOf
  constructor <;> linarith

theorem sub_le_rounded {e : Int} (hq : 0 < q) (h : q < (2 : Rat) ^ e) (he : -1021 ≤ e) :
    q - (2 : Rat) ^ (e - 54) ≤ rounded q := by
  have half : (2 : Rat) ^ (e - 53) / 2 = (2 : Rat) ^ (e - 54) := by
    rw [show e - 53 = e - 54 + 1 by ring, zpow_add_one₀ two_ne_zero, mul_div_cancel_right₀ _ two_ne_zero]
  have finer : (2 : Rat) ^ stepOf q ≤ (2 : Rat) ^ (e - 53) :=
    zpow_le_zpow_right₀ one_le_two (stepOf_le_of_lt hq h he)
  have := (rounded_bounds q).1
  linarith

theorem rounded_of_whole {z : Int} (h : q = z * (2 : Rat) ^ stepOf q) : rounded q = q := by
  have unit : (2 : Rat) ^ stepOf q ≠ 0 := zpow_ne_zero _ two_ne_zero
  rw [rounded, stepsOf, (div_eq_iff unit).mpr h, nearest_intCast, ← h]

/-- So many steps of any size are rounded to themselves. -/
theorem rounded_steps {e : Int} (hm : m ≤ 2 * octaveSize) (he : -1074 ≤ e) :
    rounded (m * (2 : Rat) ^ e) = m * (2 : Rat) ^ e := by
  obtain rfl | hpos := Nat.eq_zero_or_pos m
  · apply rounded_of_whole (z := 0)
    simp
  have unit : 0 < (2 : Rat) ^ e := zpow_pos two_pos _
  have hq : 0 < m * (2 : Rat) ^ e := mul_pos (by exact_mod_cast hpos) unit
  by_cases fine : stepOf (m * (2 : Rat) ^ e) ≤ e
  · obtain ⟨d, hd⟩ := Int.eq_ofNat_of_zero_le (sub_nonneg.mpr fine)
    apply rounded_of_whole (z := m * 2 ^ d)
    push_cast
    rw [mul_assoc, ← zpow_natCast, ← zpow_add₀ two_ne_zero, ← hd, sub_add_cancel]
  · -- then there are as many steps as fill two octaves, and half as many of the next size
    generalize hE : binaryExponent (m * (2 : Rat) ^ e) = E
    have exact_fit : stepOf (m * (2 : Rat) ^ e) = E - 52 := by
      rw [stepOf_eq_max, hE] at fine ⊢
      omega
    have low : (2 : Rat) ^ E ≤ m * (2 : Rat) ^ e := hE ▸ (binaryExponent_bounds hq).1
    have high : m * (2 : Rat) ^ e ≤ (2 : Rat) ^ E :=
      calc m * (2 : Rat) ^ e
          ≤ (2 * octaveSize : Nat) * (2 : Rat) ^ e :=
            mul_le_mul_of_nonneg_right (by exact_mod_cast hm) unit.le
        _ = (2 : Rat) ^ (53 + e) := by rw [cast_two_mul_octaveSize, ← zpow_add₀ two_ne_zero]
        _ ≤ (2 : Rat) ^ E := zpow_le_zpow_right₀ one_le_two (by omega)
    apply rounded_of_whole (z := octaveSize)
    rw [exact_fit, Int.cast_natCast, cast_octaveSize, ← zpow_add₀ two_ne_zero, add_sub_cancel]
    exact le_antisymm high low

theorem rounded_natCast (hn : n ≤ 2 * octaveSize) : rounded n = n := by
  simpa using rounded_steps (e := 0) hn (by decide)

/-- Nothing is rounded across a whole number that the format has. -/
theorem rounded_le_natCast (hq : 0 < q) (h : q ≤ n) (hn : n ≤ 2 * octaveSize) : rounded q ≤ n := by
  rw [← rounded_natCast hn]
  exact rounded_mono hq h

theorem endlessRank_lt_infiniteRank (hq : 0 < q) (h : q < (2 : Rat) ^ (1023 : Int)) :
    endlessRank q < infiniteRank := by
  obtain ⟨k, m, step, -, place, -, high⟩ := exists_steps_eq hq
  have finer := stepOf_le_of_lt hq h (by decide)
  have most := Nat.mul_le_mul_right octaveSize (show k ≤ 2044 by omega)
  have top : infiniteRank = 2044 * octaveSize + 3 * octaveSize := by decide
  have pos : 0 < octaveSize := by decide
  omega

theorem round_of_pos (b : Bool) (hq : 0 < q) (h : q < (2 : Rat) ^ (1023 : Int)) :
    round b q = ofRank false (endlessRank q) := by
  have finite := endlessRank_lt_infiniteRank hq h
  rw [round, if_neg hq.ne', if_neg hq.le.not_gt, nearestRank_eq_min, Nat.min_eq_right finite.le]

theorem round_of_neg (b : Bool) (hq : q < 0) (h : -q < (2 : Rat) ^ (1023 : Int)) :
    round b q = ofRank true (endlessRank (-q)) := by
  have finite := endlessRank_lt_infiniteRank (neg_pos.mpr hq) h
  rw [round, if_neg hq.ne, if_pos hq, nearestRank_eq_min, Nat.min_eq_right finite.le]

/-- A quantity that is not too large is a number of the format when it is rounded. -/
theorem view_round (b : Bool) (hq : 0 < q) (h : q < (2 : Rat) ^ (1023 : Int)) :
    (round b q).view = .finite (rounded q) := by
  rw [round_of_pos b hq h, view_ofRank false (endlessRank_lt_infiniteRank hq h),
    magnitude_endlessRank hq]
  rfl

theorem mul_of_view {x y : Binary64} {a b : Rat} (hx : x.view = .finite a)
    (hy : y.view = .finite b) : x * y = round (x.negative != y.negative) (a * b) := by
  change mul x y = _
  rw [mul, hx, hy]

theorem ceil_of_view {x : Binary64} {a : Rat} (hx : x.view = .finite a) :
    x.ceil = a.ceil.toNat := by
  rw [ceil, hx]

/-! Whole numbers are exact up to two octaves of steps, and keep their order at any size. -/

theorem ofNat_zero : ofNat 0 = ofRank false 0 := by
  rw [ofNat, ofRat, round, if_pos Nat.cast_zero, zero]

theorem ofNat_of_pos (hn : 0 < n) : ofNat n = ofRank false (nearestRank n) := by
  have pos : 0 < (n : Rat) := by exact_mod_cast hn
  rw [ofNat, ofRat, round, if_neg pos.ne', if_neg pos.le.not_gt]

theorem nearestRank_le (q : Rat) : nearestRank q ≤ infiniteRank := min_le_left ..

theorem view_ofNat (hn : n ≤ 2 * octaveSize) : (ofNat n).view = .finite n := by
  obtain rfl | hpos := Nat.eq_zero_or_pos n
  · rw [ofNat_zero, view_ofRank false (by decide), magnitude_zero]
    rfl
  · have small : (n : Rat) < (2 : Rat) ^ (1023 : Int) :=
      calc (n : Rat) ≤ (2 * octaveSize : Nat) := by exact_mod_cast hn
        _ = (2 : Rat) ^ (53 : Int) := cast_two_mul_octaveSize
        _ < (2 : Rat) ^ (1023 : Int) := zpow_lt_zpow_right₀ one_lt_two (by decide)
    rw [ofNat, ofRat, view_round false (by exact_mod_cast hpos) small, rounded_natCast hn]

theorem ofNat_mono (h : m ≤ n) : ofNat m ≤ ofNat n := by
  obtain rfl | hn := Nat.eq_zero_or_pos n
  · obtain rfl : m = 0 := by omega
    rw [ofNat_zero]
    exact ofRank_le_ofRank le_rfl (Nat.zero_le _)
  obtain rfl | hm := Nat.eq_zero_or_pos m
  · rw [ofNat_zero, ofNat_of_pos hn]
    exact ofRank_le_ofRank (Nat.zero_le _) (nearestRank_le n)
  · rw [ofNat_of_pos hm, ofNat_of_pos hn]
    refine ofRank_le_ofRank ?_ (nearestRank_le n)
    exact min_le_min_left infiniteRank
      (endlessRank_mono (by exact_mod_cast hm) (by exact_mod_cast h))

end TokenSurvey.Binary64
