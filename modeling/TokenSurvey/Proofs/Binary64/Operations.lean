import TokenSurvey.Proofs.Binary64.Spans

/-! What the operations give on numbers that are not negative: the exact result, rounded, as long as it
is in range. -/
namespace TokenSurvey.Binary64

open Rounding (binaryExponent binaryExponent_bounds binaryExponent_two_mul le_binaryExponent_iff
  binaryExponent_lt_iff nearestRoot nearestRoot_zero nearestRoot_le le_nearestRoot)

variable {x y : Binary64} {a b q v w : Rat} {lo hi : Int}

/-- A finite number without a minus sign, and its value. -/
structure Stands (x : Binary64) (v : Rat) : Prop where
  view : x.view = .finite v
  unsigned : x.negative = false

theorem rank_lt_of_view (h : x.view = .finite v) : x.rank < infiniteRank := by
  unfold view at h
  split_ifs at h <;> omega

theorem view_of_rank_lt (h : x.rank < infiniteRank) :
    x.view = .finite (if x.negative then -magnitude x.rank else magnitude x.rank) := by
  rw [view, if_neg (by omega), if_neg (by omega)]

namespace Stands

theorem isFinite (h : Stands x v) : x.isFinite = true :=
  decide_eq_true (rank_lt_of_view h.view)

theorem isNaN (h : Stands x v) : x.isNaN = false :=
  decide_eq_false (rank_lt_of_view h.view).le.not_gt

theorem eq_magnitude (h : Stands x v) : v = magnitude x.rank := by
  have view := view_of_rank_lt (rank_lt_of_view h.view)
  rw [h.view, h.unsigned] at view
  exact View.finite.inj view

theorem nonneg (h : Stands x v) : 0 ≤ v := by
  rw [h.eq_magnitude, ← magnitude_zero]
  exact magnitude_strictMono.monotone (Nat.zero_le _)

/-- Only one number without a minus sign has a value. -/
theorem unique (hx : Stands x v) (hy : Stands y v) : x = y := by
  have rank : x.rank = y.rank :=
    magnitude_strictMono.injective (hx.eq_magnitude.symm.trans hy.eq_magnitude)
  have plain {z : Binary64} (hz : z.negative = false) : z.rank = z.bits.toNat :=
    Nat.mod_eq_of_lt (not_le.mp (of_decide_eq_false hz))
  rw [plain hx.unsigned, plain hy.unsigned] at rank
  cases x
  cases y
  exact congrArg Binary64.mk (UInt64.toNat_inj.mp rank)

theorem ofRank {r : Nat} (h : r < infiniteRank) : Stands (ofRank false r) (magnitude r) :=
  ⟨view_ofRank false h, negative_ofRank false (h.trans infiniteRank_lt_signBit)⟩

theorem zero : Stands (zero false) 0 := by
  have h := ofRank (r := 0) (by decide)
  rwa [magnitude_zero] at h

theorem round (hq : 0 ≤ q) (h : q < (2 : Rat) ^ (1023 : Int)) :
    Stands (round false q) (rounded q) := by
  rcases hq.eq_or_lt with rfl | pos
  · rw [Binary64.round, if_pos rfl, rounded_zero]
    exact zero
  · rw [round_of_pos false pos h, ← magnitude_endlessRank pos]
    exact ofRank (endlessRank_lt_infiniteRank pos h)

theorem ofRat (hq : 0 ≤ q) (h : q < (2 : Rat) ^ (1023 : Int)) :
    Stands (Binary64.ofRat q) (rounded q) :=
  round hq h

theorem ofNat {n : Nat} (h : Spans lo hi n) (hhi : hi < 1023) :
    Stands (Binary64.ofNat n) (rounded n) :=
  ofRat n.cast_nonneg (h.lt hhi)

theorem add (hx : Stands x a) (hy : Stands y b) (h : a + b < (2 : Rat) ^ (1023 : Int)) :
    Stands (x + y) (rounded (a + b)) := by
  change Stands (Binary64.add x y) _
  rw [Binary64.add, hx.view, hy.view, hx.unsigned, hy.unsigned]
  exact round (add_nonneg hx.nonneg hy.nonneg) h

theorem div (hx : Stands x a) (hy : Stands y b) (hb : b ≠ 0)
    (h : a / b < (2 : Rat) ^ (1023 : Int)) : Stands (x / y) (rounded (a / b)) := by
  change Stands (Binary64.div x y) _
  rw [Binary64.div, hx.view, hy.view, hx.unsigned, hy.unsigned]
  dsimp only
  rw [if_neg hb]
  exact round (div_nonneg hx.nonneg hy.nonneg) h

theorem sub_eq (hx : Stands x a) (hy : Stands y b) : x - y = Binary64.round false (a - b) := by
  have hrank := rank_lt_of_view hy.view
  have view_neg : (neg y).view = .finite (-b) := by
    rw [neg, hy.unsigned, view_ofRank _ hrank, hy.eq_magnitude]
    rfl
  change Binary64.add x (neg y) = _
  rw [Binary64.add, hx.view, view_neg, hx.unsigned, sub_eq_add_neg]
  rfl

end Stands

/-- A difference may be negative, but its distance from zero is rounded as if it were not. -/
theorem exists_view_round (h : |q| < (2 : Rat) ^ (1023 : Int)) :
    ∃ w, (round false q).view = .finite w ∧ |w| = rounded |q| := by
  rcases lt_or_ge q 0 with neg | nonneg
  · rw [abs_of_neg neg] at h ⊢
    have pos : 0 < -q := neg_pos.mpr neg
    refine ⟨-rounded (-q), ?_, ?_⟩
    · rw [round_of_neg false neg h, view_ofRank true (endlessRank_lt_infiniteRank pos h),
        magnitude_endlessRank pos]
      rfl
    · rw [abs_neg, abs_of_nonneg (rounded_nonneg pos.le)]
  · rw [abs_of_nonneg nonneg] at h ⊢
    exact ⟨rounded q, (Stands.round nonneg h).view, abs_of_nonneg (rounded_nonneg nonneg)⟩

/-- The value of a squared difference. -/
def squaredDistance (a b : Rat) : Rat := rounded (rounded |a - b| * rounded |a - b|)

theorem Stands.square_sub (hx : Stands x a) (hy : Stands y b) (h : Spans lo hi |a - b|)
    (hlo : -1074 ≤ lo) (hle : -1074 ≤ hi) (hhi : hi + hi < 1023) :
    Stands ((x - y) * (x - y)) (squaredDistance a b) := by
  obtain ⟨w, hw, habs⟩ := exists_view_round (h.lt (by omega))
  have square : w * w = rounded |a - b| * rounded |a - b| := by
    rw [← habs, abs_mul_abs_self]
  have spans := (h.rounded hlo hle).mul (h.rounded hlo hle)
  rw [hx.sub_eq hy, mul_of_view hw hw, bne_self_eq_false, square]
  exact Stands.round spans.nonneg (spans.lt hhi)

theorem Spans.squaredDistance (h : Spans lo hi |a - b|) (hlo : -537 ≤ lo) (hhi : -537 ≤ hi) :
    Spans (lo + lo) (hi + hi) (squaredDistance a b) := by
  have spans := h.rounded (by omega) (by omega)
  exact (spans.mul spans).rounded (by omega) (by omega)

theorem Spans.squaredDistance_eq_zero_iff (h : Spans lo hi |a - b|) (hlo : -537 ≤ lo)
    (hhi : -537 ≤ hi) : Binary64.squaredDistance a b = 0 ↔ a = b := by
  have spans := h.rounded (by omega) (by omega)
  rw [Binary64.squaredDistance, (spans.mul spans).rounded_eq_zero_iff (by omega), mul_self_eq_zero,
    h.rounded_eq_zero_iff (by omega), abs_eq_zero, sub_eq_zero]

/-- Numbers twice as great are twice as far apart, and that squared is four times as much. -/
theorem Spans.squaredDistance_two_mul (h : Spans lo hi |a - b|) (hlo : -511 ≤ lo)
    (hhi : -537 ≤ hi) :
    Binary64.squaredDistance (2 * a) (2 * b) = 2 * (2 * Binary64.squaredDistance a b) := by
  have distance : |2 * a - 2 * b| = 2 * |a - b| := by
    rw [← mul_sub, abs_mul, abs_of_pos two_pos]
  have spans := h.rounded (by omega) (by omega)
  have square := spans.mul spans
  rw [Binary64.squaredDistance, Binary64.squaredDistance, distance,
    rounded_two_mul (h.normal (by omega)), mul_mul_mul_comm, mul_assoc 2 2,
    rounded_two_mul (square.two_mul.normal (by omega)), rounded_two_mul (square.normal (by omega))]

/-! The square root. -/

/-- The size of the steps next to the root of a quantity, as a power of two. -/
def rootStepOf (q : Rat) : Int := stepExponent ((binaryExponent q).fdiv 2)

def rootStepsOf (q : Rat) : Int :=
  nearestRoot (q / ((2 : Rat) ^ rootStepOf q * (2 : Rat) ^ rootStepOf q))

/-- The nearest quantity of the format to a root. -/
def roundedRoot (q : Rat) : Rat := rootStepsOf q * (2 : Rat) ^ rootStepOf q

theorem nearestRootRank_eq (q : Rat) :
    nearestRootRank q = rankOfSteps (rootStepsOf q) (rootStepOf q) := rfl

@[simp] theorem roundedRoot_zero : roundedRoot 0 = 0 := by
  rw [roundedRoot, rootStepsOf, zero_div, nearestRoot_zero, Int.cast_zero, zero_mul]

/-- Away from the smallest steps, half of the exponent is that of the root. -/
theorem rootStepOf_eq (hq : (2 : Rat) ^ (-2044 : Int) ≤ q) :
    rootStepOf q = binaryExponent q / 2 - 52 := by
  have normal := (le_binaryExponent_iff ((zpow_pos two_pos _).trans_le hq)).mpr hq
  rw [rootStepOf, stepExponent, Int.fdiv_eq_ediv_of_nonneg _ (by decide)]
  omega

theorem rootStepsOf_bounds (hq : (2 : Rat) ^ (-2044 : Int) ≤ q) :
    (octaveSize : Int) ≤ rootStepsOf q ∧ rootStepsOf q ≤ (2 * octaveSize : Nat) := by
  have pos : 0 < q := (zpow_pos two_pos _).trans_le hq
  obtain ⟨low, high⟩ := binaryExponent_bounds pos
  have unit : 0 < (2 : Rat) ^ rootStepOf q * (2 : Rat) ^ rootStepOf q :=
    mul_pos (zpow_pos two_pos _) (zpow_pos two_pos _)
  have step := rootStepOf_eq hq
  constructor
  · apply le_nearestRoot
    rw [le_div_iff₀ unit, cast_octaveSize, mul_mul_mul_comm, ← zpow_add₀ two_ne_zero,
      ← zpow_add₀ two_ne_zero]
    exact (zpow_le_zpow_right₀ one_le_two (by omega)).trans low
  · apply nearestRoot_le (div_nonneg pos.le unit.le)
    rw [div_lt_iff₀ unit, cast_two_mul_octaveSize, mul_mul_mul_comm, ← zpow_add₀ two_ne_zero,
      ← zpow_add₀ two_ne_zero]
    exact high.trans_le (zpow_le_zpow_right₀ one_le_two (by omega))

theorem roundedRoot_pos (hq : (2 : Rat) ^ (-2044 : Int) ≤ q) : 0 < roundedRoot q := by
  have some_steps : 0 < rootStepsOf q := by
    have least := (rootStepsOf_bounds hq).1
    have : 0 < octaveSize := by decide
    omega
  exact mul_pos (by exact_mod_cast some_steps) (zpow_pos two_pos _)

theorem Stands.root (hq : (2 : Rat) ^ (-2044 : Int) ≤ q) (h : q < (2 : Rat) ^ (1023 : Int)) :
    Stands (Binary64.ofRank false (nearestRootRank q)) (roundedRoot q) := by
  have pos : 0 < q := (zpow_pos two_pos _).trans_le hq
  have least := (le_binaryExponent_iff pos).mpr hq
  have most := (binaryExponent_lt_iff pos).mpr h
  have step := rootStepOf_eq hq
  obtain ⟨low, high⟩ := rootStepsOf_bounds hq
  obtain ⟨k, hk⟩ := Int.eq_ofNat_of_zero_le (show 0 ≤ rootStepOf q + 1074 by omega)
  obtain ⟨m, hm⟩ := Int.eq_ofNat_of_zero_le (show 0 ≤ rootStepsOf q by omega)
  have inside : k * octaveSize + m < infiniteRank := by
    have := Nat.mul_le_mul_right octaveSize (show k ≤ 2044 by omega)
    have top : infiniteRank = 2044 * octaveSize + 3 * octaveSize := by decide
    have : 0 < octaveSize := by decide
    omega
  have place : nearestRootRank q = k * octaveSize + m := by
    rw [nearestRootRank_eq, rankOfSteps, hk, hm]
    exact Nat.min_eq_right inside.le
  have value : magnitude (k * octaveSize + m) = roundedRoot q := by
    rw [magnitude_steps (Or.inr (by omega)) (by omega), roundedRoot, hm,
      show rootStepOf q = k - 1074 by omega, Int.cast_natCast]
  rw [place, ← value]
  exact Stands.ofRank inside

theorem Stands.sqrt (hx : Stands x a) (h : Spans lo hi a) (hlo : -2044 ≤ lo) (hhi : hi < 1023) :
    Stands x.sqrt (roundedRoot a) := by
  rw [Binary64.sqrt, hx.view]
  dsimp only
  rcases (h.mono hlo le_rfl).least with rfl | least
  · rw [if_pos rfl, roundedRoot_zero]
    exact hx
  · have pos : 0 < a := (zpow_pos two_pos _).trans_le least
    rw [if_neg pos.ne', if_neg pos.le.not_gt]
    exact Stands.root least (h.lt hhi)

/-- Four times as much has a root twice as great. -/
theorem roundedRoot_two_mul_two_mul (h : q = 0 ∨ (2 : Rat) ^ (-2044 : Int) ≤ q) :
    roundedRoot (2 * (2 * q)) = 2 * roundedRoot q := by
  rcases h with rfl | hq
  · simp
  · have pos : 0 < q := (zpow_pos two_pos _).trans_le hq
    have exponent : binaryExponent (2 * (2 * q)) = binaryExponent q + 1 + 1 := by
      rw [binaryExponent_two_mul (mul_pos two_pos pos), binaryExponent_two_mul pos]
    have step : rootStepOf (2 * (2 * q)) = rootStepOf q + 1 := by
      rw [rootStepOf_eq hq, rootStepOf_eq (hq.trans (by linarith)), exponent]
      omega
    have steps : rootStepsOf (2 * (2 * q)) = rootStepsOf q := by
      have unit : (2 : Rat) ^ rootStepOf q ≠ 0 := zpow_ne_zero _ two_ne_zero
      unfold rootStepsOf
      rw [step, zpow_add_one₀ two_ne_zero]
      congr 1
      field_simp
    rw [roundedRoot, roundedRoot, steps, step, zpow_add_one₀ two_ne_zero]
    ring

end TokenSurvey.Binary64
