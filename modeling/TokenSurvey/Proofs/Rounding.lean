import Mathlib.Data.Int.Log
import Mathlib.Data.Rat.Floor
import Mathlib.Tactic.Linarith
import TokenSurvey.Rounding

/-! The nearest whole number to a quantity and to its root, and the exponent of a quantity. -/
namespace TokenSurvey.Rounding

variable {p q : Rat} {z : Int} {n : Nat}

theorem settle_bounds (z : Int) (place : Ordering) :
    z ≤ settle z place ∧ settle z place ≤ z + 1 := by
  unfold settle
  split
  · omega
  · omega
  · split <;> omega

/-- The nearest whole number is not further away than a half. -/
theorem nearest_bounds (q : Rat) : q - 1 / 2 ≤ nearest q ∧ nearest q ≤ q + 1 / 2 := by
  have low : (q.floor : Rat) ≤ q := Rat.floor_le q
  have high : q - 1 < q.floor := Rat.lt_floor
  unfold nearest compare
  split_ifs with below above
  · rw [settle]
    constructor <;> linarith
  · rw [settle]
    push_cast
    constructor <;> linarith
  · have half : q - q.floor = 1 / 2 := le_antisymm (not_lt.mp above) (not_lt.mp below)
    obtain ⟨least, most⟩ := settle_bounds q.floor .eq
    have least' : (q.floor : Rat) ≤ settle q.floor .eq := by exact_mod_cast least
    have most' : (settle q.floor .eq : Rat) ≤ q.floor + 1 := by exact_mod_cast most
    constructor <;> linarith

@[simp] theorem nearest_intCast (z : Int) : nearest z = z := by
  obtain ⟨low, high⟩ := nearest_bounds z
  have up : nearest z < z + 1 := by
    have : (nearest z : Rat) < (z + 1 : Int) := by push_cast; linarith
    exact_mod_cast this
  have down : z < nearest z + 1 := by
    have : (z : Rat) < (nearest z + 1 : Int) := by push_cast; linarith
    exact_mod_cast this
  omega

theorem nearest_mono (h : p ≤ q) : nearest p ≤ nearest q := by
  by_contra less
  obtain ⟨-, high⟩ := nearest_bounds p
  obtain ⟨low, -⟩ := nearest_bounds q
  have step : (nearest q : Rat) + 1 ≤ nearest p := by exact_mod_cast not_le.mp less
  obtain rfl : p = q := by linarith
  linarith

/-- Where two whole numbers are as near, the even one is taken. -/
theorem nearest_even_of_tie (h : |(nearest q : Rat) - q| = 1 / 2) : Even (nearest q) := by
  have low : (q.floor : Rat) ≤ q := Rat.floor_le q
  have high : q - 1 < q.floor := Rat.lt_floor
  unfold nearest compare at h ⊢
  split_ifs at h ⊢ with below above
  · rw [settle, abs_sub_comm, abs_of_nonneg (sub_nonneg.mpr low)] at h
    linarith
  · rw [settle] at h
    push_cast at h
    rw [abs_of_nonneg (by linarith)] at h
    linarith
  · rw [settle]
    split_ifs with even
    · exact Int.even_iff.mpr even
    · exact Int.even_iff.mpr (by omega)

/-- Every other whole number is further away, or as far and then this one is even. -/
theorem nearest_is_nearest (h : z ≠ nearest q) :
    |(nearest q : Rat) - q| < |(z : Rat) - q| ∨
      |(nearest q : Rat) - q| = |(z : Rat) - q| ∧ Even (nearest q) := by
  obtain ⟨low, high⟩ := nearest_bounds q
  have near : |(nearest q : Rat) - q| ≤ 1 / 2 := abs_le.mpr ⟨by linarith, by linarith⟩
  have apart : (1 : Rat) ≤ |(z : Rat) - nearest q| := by
    exact_mod_cast Int.one_le_abs (sub_ne_zero.mpr h)
  have far : 1 / 2 ≤ |(z : Rat) - q| := by
    have between := abs_sub_abs_le_abs_sub ((z : Rat) - nearest q) (q - nearest q)
    rw [sub_sub_sub_cancel_right, abs_sub_comm q] at between
    linarith
  rcases lt_or_eq_of_le (near.trans far) with less | tie
  · exact Or.inl less
  · exact Or.inr ⟨tie, nearest_even_of_tie (le_antisymm near (far.trans tie.ge))⟩

theorem nearest_nonneg (hq : 0 ≤ q) : 0 ≤ nearest q := by
  have := nearest_mono hq
  rwa [← Int.cast_zero, nearest_intCast] at this

/-- Between a quantity and its exponent there is less than one doubling. -/
theorem binaryExponent_bounds (hq : 0 < q) :
    (2 : Rat) ^ binaryExponent q ≤ q ∧ q < (2 : Rat) ^ (binaryExponent q + 1) := by
  have hn : q.num.natAbs ≠ 0 := Int.natAbs_ne_zero.mpr (Rat.num_pos.mpr hq).ne'
  have num : (q.num.natAbs : Rat) = q * q.den := by
    rw [Rat.mul_den_eq_num, Nat.cast_natAbs, abs_of_pos (Rat.num_pos.mpr hq)]
  have num_low : (2 : Rat) ^ (q.num.natAbs.log2 : Int) ≤ q * q.den := by
    rw [← num, zpow_natCast]
    exact_mod_cast Nat.log2_self_le hn
  have num_high : q * q.den < (2 : Rat) ^ (q.num.natAbs.log2 + 1 : Int) := by
    rw [← num]
    exact_mod_cast Nat.lt_log2_self
  have den_low : (2 : Rat) ^ (q.den.log2 : Int) ≤ q.den := by
    rw [zpow_natCast]
    exact_mod_cast Nat.log2_self_le q.den_nz
  have den_high : (q.den : Rat) < (2 : Rat) ^ (q.den.log2 + 1 : Int) := by
    exact_mod_cast Nat.lt_log2_self
  unfold binaryExponent
  generalize (q.num.natAbs.log2 : Int) = a at *
  generalize (q.den.log2 : Int) = b at *
  have high : q < (2 : Rat) ^ (a - b + 1) := by
    have : q * (2 : Rat) ^ b < (2 : Rat) ^ (a - b + 1) * (2 : Rat) ^ b := by
      rw [← zpow_add₀ two_ne_zero, show a - b + 1 + b = a + 1 by ring]
      exact (mul_le_mul_of_nonneg_left den_low hq.le).trans_lt num_high
    exact lt_of_mul_lt_mul_right this (zpow_pos two_pos b).le
  have low : (2 : Rat) ^ (a - b - 1) ≤ q := by
    have : (2 : Rat) ^ (a - b - 1) * q.den ≤ q * q.den := by
      refine le_trans ?_ num_low
      rw [show a = a - b - 1 + (b + 1) by ring, zpow_add₀ two_ne_zero,
        show a - b - 1 + (b + 1) - b - 1 = a - b - 1 by ring]
      exact mul_le_mul_of_nonneg_left den_high.le (zpow_pos two_pos _).le
    exact le_of_mul_le_mul_right this (by exact_mod_cast q.den_pos)
  dsimp only
  split_ifs with fits
  · exact ⟨fits, high⟩
  · rw [sub_add_cancel]
    exact ⟨low, not_le.mp fits⟩

theorem binaryExponent_eq_log (hq : 0 < q) : binaryExponent q = Int.log 2 q := by
  obtain ⟨low, high⟩ := binaryExponent_bounds hq
  have least := (Int.zpow_le_iff_le_log one_lt_two hq).mp (by exact_mod_cast low)
  have most := (Int.lt_zpow_iff_log_lt one_lt_two hq).mp (by exact_mod_cast high)
  omega

theorem binaryExponent_mono (hp : 0 < p) (h : p ≤ q) : binaryExponent p ≤ binaryExponent q := by
  rw [binaryExponent_eq_log hp, binaryExponent_eq_log (hp.trans_le h)]
  exact Int.log_mono_right hp h

theorem binaryExponent_lt_iff (hq : 0 < q) : binaryExponent q < z ↔ q < (2 : Rat) ^ z := by
  rw [binaryExponent_eq_log hq, ← Int.lt_zpow_iff_log_lt one_lt_two hq, Nat.cast_ofNat]

theorem le_binaryExponent_iff (hq : 0 < q) : z ≤ binaryExponent q ↔ (2 : Rat) ^ z ≤ q := by
  rw [← not_lt, ← not_lt, binaryExponent_lt_iff hq]

theorem binaryExponent_eq (low : (2 : Rat) ^ z ≤ q) (high : q < (2 : Rat) ^ (z + 1)) :
    binaryExponent q = z := by
  have hq : 0 < q := (zpow_pos two_pos z).trans_le low
  have least := (le_binaryExponent_iff hq).mpr low
  have most := (binaryExponent_lt_iff hq).mpr high
  omega

theorem binaryExponent_two_mul (hq : 0 < q) : binaryExponent (2 * q) = binaryExponent q + 1 := by
  obtain ⟨low, high⟩ := binaryExponent_bounds hq
  apply binaryExponent_eq
  · rw [zpow_add_one₀ two_ne_zero]
    linarith
  · rw [zpow_add_one₀ two_ne_zero]
    linarith

/-! The root. -/

theorem floorRoot_bounds (n : Nat) :
    floorRoot n * floorRoot n ≤ n ∧ n < (floorRoot n + 1) * (floorRoot n + 1) := by
  -- a quarter of the number has half of the root, but for one
  induction n using floorRoot.induct with
  | case1 => simp [floorRoot]
  | case2 n hn r fits ih =>
    obtain ⟨-, high⟩ := ih
    have quarter : n < 4 * (n / 4) + 4 := by omega
    rw [floorRoot, if_neg hn]
    dsimp only
    rw [if_pos fits]
    refine ⟨fits, ?_⟩
    nlinarith
  | case3 n hn r exceeds ih =>
    obtain ⟨low, -⟩ := ih
    have quarter : 4 * (n / 4) ≤ n := by omega
    rw [floorRoot, if_neg hn]
    dsimp only
    rw [if_neg exceeds]
    refine ⟨?_, not_le.mp exceeds⟩
    nlinarith

theorem nearestRoot_bounds (q : Rat) :
    (floorRoot q.floor.toNat : Int) ≤ nearestRoot q ∧
      nearestRoot q ≤ floorRoot q.floor.toNat + 1 :=
  settle_bounds ..

theorem le_nearestRoot (h : (n : Rat) * n ≤ q) : n ≤ nearestRoot q := by
  have whole : ((n * n : Nat) : Int) ≤ q.floor := by
    apply Rat.le_floor_iff.mpr
    push_cast
    exact h
  have root : n ≤ floorRoot q.floor.toNat := by
    by_contra hless
    have high := (floorRoot_bounds q.floor.toNat).2
    have := Nat.mul_self_le_mul_self (not_le.mp hless)
    rw [Nat.succ_eq_add_one] at this
    omega
  have := (nearestRoot_bounds q).1
  omega

theorem nearestRoot_le (hq : 0 ≤ q) (h : q < (n : Rat) * n) : nearestRoot q ≤ n := by
  have whole : q.floor < ((n * n : Nat) : Int) := by
    apply Rat.floor_lt_iff.mpr
    push_cast
    exact h
  have least : 0 ≤ q.floor := Rat.le_floor_iff.mpr (by exact_mod_cast hq)
  have root : floorRoot q.floor.toNat < n := by
    by_contra hless
    have low := (floorRoot_bounds q.floor.toNat).1
    have := Nat.mul_self_le_mul_self (not_lt.mp hless)
    omega
  have := (nearestRoot_bounds q).2
  omega

@[simp] theorem nearestRoot_zero : nearestRoot 0 = 0 := by
  have root : floorRoot (Rat.floor 0).toNat = 0 := by
    rw [show Rat.floor 0 = 0 from rfl, Int.toNat_zero, floorRoot, if_pos rfl]
  rw [nearestRoot, root, compare, if_pos (by norm_num)]
  rfl

end TokenSurvey.Rounding
