import TokenSurvey.Decimal.Fixed
import TokenSurvey.Proofs.Binary64.Places
import TokenSurvey.Proofs.Rounding

/-! What a decimal text with a fixed count of places says: of all numbers with so many places, the
nearest one. -/
namespace TokenSurvey.Decimal

variable {places units width : Nat} {q : Rat} {s : List Char} {x : Binary64}

/-- The digits of a whole number and, unless there are to be no places, a point and so many digits
after it. All digits together are those of the number of units in the last place. -/
def Shows (text : List Char) (places units : Nat) : Prop :=
  ∃ whole fraction, text = Nat.toDigits 10 whole ++ (if places = 0 then [] else '.' :: fraction) ∧
    fraction.length = places ∧ (∀ c ∈ fraction, c.isDigit) ∧
    Nat.ofDigitChars 10 (Nat.toDigits 10 whole ++ fraction) 0 = units

/-- Every other number of so many places is further away from the quantity, or as far and then the
last place of this one is even. -/
def IsNearest (units places : Nat) (q : Rat) : Prop :=
  ∀ n : Nat, n ≠ units →
    |(units : Rat) / 10 ^ places - q| < |(n : Rat) / 10 ^ places - q| ∨
      |(units : Rat) / 10 ^ places - q| = |(n : Rat) / 10 ^ places - q| ∧ Even units

theorem length_padLeft (h : s.length ≤ width) : (padLeft width s).length = width := by
  rw [padLeft, List.length_append, List.length_replicate]
  omega

theorem ofDigitChars_padLeft (width : Nat) (s : List Char) :
    Nat.ofDigitChars 10 (padLeft width s) 0 = Nat.ofDigitChars 10 s 0 := by
  rw [padLeft, Nat.ofDigitChars_append, Nat.ofDigitChars_replicate_zero, Nat.mul_zero]

theorem isDigit_of_mem_padLeft (h : ∀ c ∈ s, c.isDigit) {c : Char} (hc : c ∈ padLeft width s) :
    c.isDigit := by
  rcases List.mem_append.mp hc with zero | own
  · rw [List.eq_of_mem_replicate zero]
    rfl
  · exact h c own

theorem shows_fixedMagnitude (places : Nat) (q : Rat) :
    Shows (fixedMagnitude places q) places (Rounding.nearest (q * 10 ^ places)).toNat := by
  have unit : q * ((10 ^ places : Nat) : Rat) = q * 10 ^ places := by
    rw [Nat.cast_pow, Nat.cast_ofNat]
  simp only [fixedMagnitude, Nat.pow_eq, unit]
  generalize (Rounding.nearest (q * 10 ^ places)).toNat = units
  by_cases h : places = 0
  · subst h
    refine ⟨units, [], by simp, rfl, by simp, ?_⟩
    rw [List.append_nil, Nat.ofDigitChars_ten_toDigits]
  · have small : units % 10 ^ places < 10 ^ places := Nat.mod_lt _ (Nat.pow_pos (by decide))
    have fits := (Nat.length_toDigits_le_iff (by decide) (Nat.pos_of_ne_zero h)).mpr small
    have digits : ∀ c ∈ Nat.toDigits 10 (units % 10 ^ places), c.isDigit :=
      fun _ hc => Nat.isDigit_of_mem_toDigits (by decide) (by decide) hc
    refine ⟨units / 10 ^ places, padLeft places (Nat.toDigits 10 (units % 10 ^ places)), ?_,
      length_padLeft fits, fun _ => isDigit_of_mem_padLeft digits, ?_⟩
    · rw [if_neg h, if_neg h]
    · rw [Nat.ofDigitChars_append, Nat.ofDigitChars_eq_ofDigitChars_zero, length_padLeft fits,
        ofDigitChars_padLeft, Nat.ofDigitChars_ten_toDigits, Nat.ofDigitChars_ten_toDigits,
        Nat.div_add_mod]

theorem isNearest_nearest (places : Nat) (hq : 0 ≤ q) :
    IsNearest (Rounding.nearest (q * 10 ^ places)).toNat places q := by
  have unit : (0 : Rat) < 10 ^ places := pow_pos (by norm_num) places
  have whole := Int.toNat_of_nonneg (Rounding.nearest_nonneg (mul_nonneg hq unit.le))
  generalize (Rounding.nearest (q * 10 ^ places)).toNat = units at whole ⊢
  intro n hn
  have other : (n : Int) ≠ Rounding.nearest (q * 10 ^ places) := by
    rw [← whole]
    exact_mod_cast hn
  -- Distances are compared in units of the last place.
  have distance (m : Nat) :
      |(m : Rat) / 10 ^ places - q| = |(m : Rat) - q * 10 ^ places| / 10 ^ places := by
    rw [← abs_of_pos unit, ← abs_div, abs_of_pos unit, sub_div, mul_div_cancel_right₀ q unit.ne']
  have compared := Rounding.nearest_is_nearest other
  rw [← whole, Int.cast_natCast, Int.cast_natCast] at compared
  rw [distance, distance]
  rcases compared with less | ⟨tie, even⟩
  · exact Or.inl (div_lt_div_of_pos_right less unit)
  · exact Or.inr ⟨by rw [tie], by exact_mod_cast even⟩

/-- A finite number is shown by the nearest number of so many places, and keeps its sign. -/
theorem fixed_of_isFinite (places : Nat) (h : x.isFinite) : ∃ text units,
    fixed places x = String.ofList ((if x.negative then ['-'] else []) ++ text) ∧
      Shows text places units ∧ IsNearest units places (Binary64.magnitude x.rank) := by
  have finite : x.rank < Binary64.infiniteRank := of_decide_eq_true h
  have nonneg : 0 ≤ Binary64.magnitude x.rank := by
    rw [← Binary64.magnitude_zero]
    exact Binary64.magnitude_strictMono.monotone (Nat.zero_le _)
  refine ⟨_, _, ?_, shows_fixedMagnitude places _, isNearest_nearest places nonneg⟩
  rw [fixed, Binary64.view, if_neg (Nat.not_lt_of_lt finite), if_neg (Nat.ne_of_lt finite)]

/-- What is not finite is named. -/
theorem fixed_of_not_isFinite (places : Nat) (h : ¬ x.isFinite) :
    fixed places x = if x.isNaN then "NaN" else if x.negative then "-inf" else "inf" := by
  have large : Binary64.infiniteRank ≤ x.rank := by simpa [Binary64.isFinite] using h
  rcases Nat.lt_or_eq_of_le large with above | same
  · rw [fixed, Binary64.view, if_pos above, Binary64.isNaN, decide_eq_true above]
    rfl
  · rw [fixed, Binary64.view, if_neg (Nat.not_lt_of_le same.ge), if_pos same.symm, Binary64.isNaN,
      decide_eq_false (Nat.not_lt_of_le same.ge)]
    rfl

/-- Half a unit above an even last place. -/
example : fixed 1 (.ofRat (1 / 4)) = "0.2" := by decide +kernel

end TokenSurvey.Decimal
