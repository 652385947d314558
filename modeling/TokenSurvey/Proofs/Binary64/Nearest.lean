import TokenSurvey.Proofs.Binary64.Operations

/-! Rounding is correct: no number of the format is nearer to the quantity, and of two that are as near
the one with the even place is taken. -/
namespace TokenSurvey.Binary64

open Rounding (nearest_even_of_tie binaryExponent_bounds)

variable {q : Rat} {r : Nat} {x : Binary64}

/-- Every other number is further away from the quantity, or as far and then this one is even. -/
def IsNearest (x : Binary64) (q : Rat) : Prop :=
  ∃ v, x.view = .finite v ∧ ∀ (y : Binary64) w, y.view = .finite w → w ≠ v →
    |v - q| < |w - q| ∨ |v - q| = |w - q| ∧ Even x.rank

/-- From one number to the next above it is a step at least. -/
theorem rounded_add_le_magnitude (hq : 0 < q) (h : endlessRank q < r) :
    rounded q + (2 : Rat) ^ stepOf q ≤ magnitude r := by
  obtain ⟨k, m, step, steps, place, low, high⟩ := exists_steps_eq hq
  have unit : 0 < (2 : Rat) ^ ((k : Int) - 1074) := zpow_pos two_pos _
  have next : rounded q + (2 : Rat) ^ stepOf q ≤ magnitude (endlessRank q + 1) := by
    rw [rounded, steps, step, place, Int.cast_natCast]
    rcases high.lt_or_eq with inside | rfl
    · rw [Nat.add_assoc, magnitude_steps (by omega) inside]
      push_cast
      linarith
    · have further : k * octaveSize + 2 * octaveSize + 1 = (k + 1) * octaveSize + (octaveSize + 1) := by
        ring
      rw [further, magnitude_steps (Or.inr (by omega)) (by decide),
        show ((k + 1 : Nat) : Int) - 1074 = k - 1074 + 1 by push_cast; ring,
        zpow_add_one₀ two_ne_zero]
      push_cast
      linarith
  exact next.trans (magnitude_strictMono.monotone h)

/-- Below the first number of an octave the steps are smaller, but then the quantity is above it. -/
theorem magnitude_le_rounded_sub (hq : 0 < q) (h : r < endlessRank q) :
    magnitude r ≤ rounded q - (2 : Rat) ^ stepOf q ∨ magnitude r < rounded q ∧ rounded q ≤ q := by
  obtain ⟨k, m, step, steps, place, low, high⟩ := exists_steps_eq hq
  by_cases first : k ≠ 0 ∧ m = octaveSize
  · right
    obtain ⟨hk, rfl⟩ := first
    refine ⟨magnitude_endlessRank hq ▸ magnitude_strictMono h, ?_⟩
    have exact_fit : stepOf q = Rounding.binaryExponent q - 52 := by
      rw [stepOf_eq_max] at step ⊢
      omega
    rw [rounded, steps, Int.cast_natCast, exact_fit, cast_octaveSize, ← zpow_add₀ two_ne_zero,
      add_sub_cancel]
    exact (binaryExponent_bounds hq).1
  · left
    have some_steps : 0 < m := by
      apply Nat.pos_of_ne_zero
      rintro rfl
      obtain rfl : k = 0 := low.resolve_right (by decide)
      omega
    have before : r ≤ k * octaveSize + (m - 1) := by omega
    apply (magnitude_strictMono.monotone before).trans
    rw [magnitude_steps (by omega) (by omega), rounded, steps, step, Int.cast_natCast,
      Nat.cast_sub (by omega)]
    push_cast
    linarith

theorem abs_rounded_sub_le (q : Rat) : |rounded q - q| ≤ (2 : Rat) ^ stepOf q / 2 := by
  obtain ⟨low, high⟩ := rounded_bounds q
  exact abs_le.mpr ⟨by linarith, by linarith⟩

theorem even_stepsOf_of_tie (h : |rounded q - q| = (2 : Rat) ^ stepOf q / 2) :
    Even (stepsOf q) := by
  have unit : 0 < (2 : Rat) ^ stepOf q := zpow_pos two_pos _
  apply nearest_even_of_tie
  change |(stepsOf q : Rat) - q / (2 : Rat) ^ stepOf q| = 1 / 2
  have scaled : ((stepsOf q : Rat) - q / (2 : Rat) ^ stepOf q) * (2 : Rat) ^ stepOf q =
      rounded q - q := by
    rw [sub_mul, div_mul_cancel₀ q unit.ne']
    rfl
  rw [← scaled, abs_mul, abs_of_pos unit] at h
  apply mul_right_cancel₀ unit.ne'
  rw [h]
  ring

theorem rounded_is_nearest (hq : 0 < q) (hr : r ≠ endlessRank q) :
    |rounded q - q| < |magnitude r - q| ∨
      |rounded q - q| = |magnitude r - q| ∧ Even (endlessRank q) := by
  have near := abs_rounded_sub_le q
  -- what is half a step away is an even place, and from every other one there is half a step
  have decided (far : (2 : Rat) ^ stepOf q / 2 ≤ |magnitude r - q|) :
      |rounded q - q| < |magnitude r - q| ∨
        |rounded q - q| = |magnitude r - q| ∧ Even (endlessRank q) := by
    rcases (near.trans far).lt_or_eq with closer | tie
    · exact Or.inl closer
    · refine Or.inr ⟨tie, ?_⟩
      have even := even_stepsOf_of_tie (le_antisymm near (far.trans tie.ge))
      obtain ⟨k, m, -, steps, place, -, -⟩ := exists_steps_eq hq
      rw [steps, Int.even_coe_nat] at even
      rw [place]
      exact (Even.mul_left (by decide) k).add even
  obtain ⟨low, high⟩ := abs_le.mp near
  rcases hr.lt_or_gt with below | above
  · rcases magnitude_le_rounded_sub hq below with apart | ⟨less, low_end⟩
    · apply decided
      rw [abs_sub_comm]
      exact le_abs.mpr (Or.inl (by linarith))
    · left
      rw [abs_sub_comm, abs_of_nonneg (by linarith), abs_sub_comm, abs_of_nonneg (by linarith)]
      linarith
  · apply decided
    have apart := rounded_add_le_magnitude hq above
    exact le_abs.mpr (Or.inl (by linarith))

theorem abs_rounded_sub_le_self (hq : 0 < q) : |rounded q - q| ≤ q := by
  have zero : |magnitude 0 - q| = q := by
    rw [magnitude_zero, zero_sub, abs_neg, abs_of_pos hq]
  by_cases same : 0 = endlessRank q
  · rw [← magnitude_endlessRank hq, ← same, zero]
  · rcases rounded_is_nearest hq same with less | ⟨tie, -⟩
    · exact less.le.trans zero.le
    · exact tie.le.trans zero.le

theorem rank_ofRat (hq : 0 < q) (h : q < (2 : Rat) ^ (1023 : Int)) :
    (ofRat q).rank = endlessRank q := by
  have inside := (endlessRank_lt_infiniteRank hq h).trans infiniteRank_lt_signBit
  rw [ofRat, round_of_pos false hq h, rank_ofRank false inside]

theorem isNearest_ofRat (hq : 0 ≤ q) (h : q < (2 : Rat) ^ (1023 : Int)) :
    IsNearest (ofRat q) q := by
  refine ⟨rounded q, (Stands.ofRat hq h).view, ?_⟩
  intro y w hy hw
  rcases hq.eq_or_lt with rfl | pos
  · left
    rw [rounded_zero] at hw ⊢
    rw [sub_zero, sub_zero, abs_zero]
    exact abs_pos.mpr hw
  · rw [rank_ofRat pos h]
    have value := view_of_rank_lt (rank_lt_of_view hy)
    rw [hy] at value
    have value := View.finite.inj value
    rw [← magnitude_endlessRank pos] at hw
    split_ifs at value with negative
    · by_cases zero : y.rank = 0
      · rw [zero, magnitude_zero, neg_zero] at value
        rw [value, ← magnitude_zero] at hw ⊢
        exact rounded_is_nearest pos fun same => hw (congrArg magnitude same)
      · -- a negative number is further away than zero
        left
        have below := magnitude_strictMono (Nat.pos_of_ne_zero zero)
        rw [magnitude_zero] at below
        exact (abs_rounded_sub_le_self pos).trans_lt (lt_abs.mpr (Or.inr (by linarith)))
    · rw [value] at hw ⊢
      exact rounded_is_nearest pos fun same => hw (congrArg magnitude same)

end TokenSurvey.Binary64
