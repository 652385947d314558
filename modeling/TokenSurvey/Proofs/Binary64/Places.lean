import Mathlib.Data.Rat.Floor
import Mathlib.Order.Monotone.Basic
import Mathlib.Tactic.Linarith
import Mathlib.Tactic.Ring
import TokenSurvey.Binary64.Basic

/-! Magnitudes by their places: a greater place stands for a greater magnitude. -/
namespace TokenSurvey.Binary64

variable {b : Bool} {k m r : Nat}

theorem magnitude_of_lt (h : m < octaveSize) : magnitude m = m * (2 : Rat) ^ (-1074 : Int) := by
  rw [magnitude, Nat.div_eq_of_lt h, Nat.mod_eq_of_lt h]
  exact if_pos rfl

theorem magnitude_octave (k : Nat) (h : m < octaveSize) :
    magnitude ((k + 1) * octaveSize + m) =
      (octaveSize + m : Nat) * (2 : Rat) ^ ((k : Int) - 1074) := by
  have octave : ((k + 1) * octaveSize + m) / octaveSize = k + 1 := by
    rw [Nat.mul_comm, Nat.mul_add_div (by decide), Nat.div_eq_of_lt h, Nat.add_zero]
  have fraction : ((k + 1) * octaveSize + m) % octaveSize = m := by
    rw [Nat.mul_comm, Nat.mul_add_mod, Nat.mod_eq_of_lt h]
  rw [magnitude, octave, fraction]
  rw [if_neg (Nat.succ_ne_zero k), show ((k + 1 : Nat) : Int) - 1075 = k - 1074 by push_cast; ring]

/-- A place is so many steps of the size of its octave. The end of an octave is the beginning of the
next one, where the steps have twice the size. -/
theorem magnitude_steps (low : k = 0 ∨ octaveSize ≤ m) (high : m ≤ 2 * octaveSize) :
    magnitude (k * octaveSize + m) = m * (2 : Rat) ^ ((k : Int) - 1074) := by
  by_cases small : m < octaveSize
  · obtain rfl : k = 0 := by omega
    rw [Nat.zero_mul, Nat.zero_add, magnitude_of_lt small]
    rfl
  obtain ⟨f, rfl⟩ := Nat.exists_eq_add_of_le (Nat.le_of_not_lt small)
  obtain inside | rfl : f < octaveSize ∨ f = octaveSize := by omega
  · rw [← Nat.add_assoc, ← Nat.succ_mul, Nat.succ_eq_add_one, magnitude_octave k inside]
  · have next : k * octaveSize + (octaveSize + octaveSize) = (k + 1 + 1) * octaveSize + 0 := by ring
    rw [next, magnitude_octave (k + 1) (by decide), Nat.add_zero,
      show ((k + 1 : Nat) : Int) - 1074 = k - 1074 + 1 by push_cast; ring,
      zpow_add_one₀ two_ne_zero]
    push_cast
    ring

/-- Every place is some steps past the beginning of its octave. -/
theorem exists_steps (r : Nat) :
    ∃ k m, r = k * octaveSize + m ∧ (k = 0 ∨ octaveSize ≤ m) ∧ m < 2 * octaveSize := by
  by_cases h : r < octaveSize
  · exact ⟨0, r, by omega, Or.inl rfl, by omega⟩
  · have parts := Nat.div_add_mod r octaveSize
    have inside := Nat.mod_lt r (show 0 < octaveSize by decide)
    have first : 1 ≤ r / octaveSize := (Nat.one_le_div_iff (by decide)).mpr (by omega)
    obtain ⟨k, hk⟩ := Nat.exists_eq_add_of_le first
    refine ⟨k, octaveSize + r % octaveSize, ?_, Or.inr (by omega), by omega⟩
    rw [hk, Nat.mul_add, Nat.mul_one, Nat.mul_comm octaveSize k] at parts
    omega

theorem magnitude_strictMono : StrictMono magnitude := by
  apply strictMono_nat_of_lt_succ
  intro r
  obtain ⟨k, m, rfl, low, high⟩ := exists_steps r
  rw [magnitude_steps low high.le, Nat.add_assoc, magnitude_steps (by omega) high]
  have unit : 0 < (2 : Rat) ^ ((k : Int) - 1074) := zpow_pos two_pos _
  push_cast
  linarith

@[simp] theorem magnitude_zero : magnitude 0 = 0 := by
  rw [magnitude_of_lt (by decide), Nat.cast_zero, zero_mul]

/-! Sign and magnitude from the bits. -/

theorem toNat_ofRank (b : Bool) (h : r < signBit) :
    (ofRank b r).bits.toNat = r + if b then signBit else 0 := by
  apply UInt64.toNat_ofNat_of_lt
  have : signBit + signBit = UInt64.size := by decide
  split <;> omega

theorem rank_ofRank (b : Bool) (h : r < signBit) : (ofRank b r).rank = r := by
  rw [rank, toNat_ofRank b h]
  cases b with
  | false => exact Nat.mod_eq_of_lt h
  | true => exact (Nat.add_mod_right r signBit).trans (Nat.mod_eq_of_lt h)

theorem negative_ofRank (b : Bool) (h : r < signBit) : (ofRank b r).negative = b := by
  rw [negative, toNat_ofRank b h]
  cases b with
  | false => exact decide_eq_false (Nat.not_le_of_lt h)
  | true => exact decide_eq_true (Nat.le_add_left signBit r)

theorem infiniteRank_lt_signBit : infiniteRank < signBit := by decide

theorem view_ofRank (b : Bool) (h : r < infiniteRank) :
    (ofRank b r).view = .finite (if b then -magnitude r else magnitude r) := by
  have inside := h.trans infiniteRank_lt_signBit
  rw [view, rank_ofRank b inside, negative_ofRank b inside, if_neg (by omega), if_neg (by omega)]

theorem view_infinity (b : Bool) : (infinity b).view = .infinite b := by
  rw [view, infinity, rank_ofRank b infiniteRank_lt_signBit,
    negative_ofRank b infiniteRank_lt_signBit, if_neg (by omega), if_pos rfl]

/-- Numbers compare by what they stand for, with the infinities at the ends. -/
def View.le : View → View → Prop
  | .nan, _ | _, .nan => False
  | .infinite true, _ | _, .infinite false => True
  | .finite x, .finite y => x ≤ y
  | _, _ => False

instance : LE Binary64 := ⟨fun x y => x.view.le y.view⟩

/-- Numbers that are not negative stand in the order of their places. -/
theorem ofRank_le_ofRank (h : k ≤ r) (hr : r ≤ infiniteRank) : ofRank false k ≤ ofRank false r := by
  change (ofRank false k).view.le (ofRank false r).view
  obtain rfl | finite := hr.eq_or_lt
  · have top := view_infinity false
    rw [infinity] at top
    rw [top]
    obtain rfl | below := h.eq_or_lt
    · rw [top]
      trivial
    · rw [view_ofRank false below]
      trivial
  · rw [view_ofRank false (h.trans_lt finite), view_ofRank false finite]
    exact magnitude_strictMono.monotone h

end TokenSurvey.Binary64
