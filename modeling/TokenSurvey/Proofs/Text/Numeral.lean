import Mathlib.Algebra.Ring.Nat
import TokenSurvey.Text.Numeral

/-! Which texts are numbers, and that reading tells exactly these. -/
namespace TokenSurvey.Text.Numeral

variable {s : List Char} {n value : Nat}

/-- Decimal digits, at least one, with a plus sign in front or without, for a number of 64 bits. -/
def Denotes (s : List Char) (n : Nat) : Prop :=
  ∃ digits ≠ [], (s = digits ∨ s = '+' :: digits) ∧ (∀ c ∈ digits, c.isDigit) ∧
    Nat.ofDigitChars 10 digits 0 = n ∧ n < 2 ^ 64

theorem le_ofDigitChars (s : List Char) (value : Nat) : value ≤ Nat.ofDigitChars 10 s value := by
  have power : 0 < 10 ^ s.length := Nat.pow_pos (by decide)
  rw [Nat.ofDigitChars_eq_ofDigitChars_zero]
  exact Nat.le_add_right_of_le (Nat.le_mul_of_pos_left value power)

/-- A value that is read so far only grows, so that it is too large in the end if it is on the way. -/
theorem readDigits_eq_ok_iff (h : value < 2 ^ 64) :
    readDigits value s = .ok n ↔
      (∀ c ∈ s, c.isDigit) ∧ Nat.ofDigitChars 10 s value = n ∧ n < 2 ^ 64 := by
  induction s generalizing value with
  | nil =>
    rw [readDigits, Nat.ofDigitChars_nil]
    constructor
    · intro hn
      obtain rfl := Except.ok.inj hn
      exact ⟨by simp, rfl, h⟩
    · rintro ⟨-, rfl, -⟩
      rfl
  | cons c s ih =>
    have next : value * 10 + (c.toNat - 48) = 10 * value + (c.toNat - '0'.toNat) := by
      rw [Nat.mul_comm]
      rfl
    rw [readDigits, Nat.ofDigitChars_cons, List.forall_mem_cons, next]
    by_cases digit : c.isDigit
    · rw [if_pos digit]
      by_cases small : 10 * value + (c.toNat - '0'.toNat) < UInt64.size
      · rw [if_pos small, ih small]
        simp [digit]
      · rw [if_neg small]
        have large := le_ofDigitChars s (10 * value + (c.toNat - '0'.toNat))
        constructor
        · simp
        · rintro ⟨-, rfl, hn⟩
          exact absurd (Nat.lt_of_le_of_lt large hn) small
    · simp [digit]

theorem denotes_signed_iff : Denotes ('+' :: s) n ↔ s ≠ [] ∧ readDigits 0 s = .ok n := by
  rw [readDigits_eq_ok_iff (by decide)]
  constructor
  · rintro ⟨digits, filled, rfl | same, all, value⟩
    · exact absurd (all '+' List.mem_cons_self) (by decide)
    · obtain rfl := (List.cons.inj same).2
      exact ⟨filled, all, value⟩
  · rintro ⟨filled, all, value⟩
    exact ⟨s, filled, .inr rfl, all, value⟩

theorem denotes_unsigned_iff (h : ∀ t, s ≠ '+' :: t) :
    Denotes s n ↔ s ≠ [] ∧ readDigits 0 s = .ok n := by
  rw [readDigits_eq_ok_iff (by decide)]
  constructor
  · rintro ⟨digits, filled, rfl | same, all, value⟩
    · exact ⟨filled, all, value⟩
    · exact absurd same (h digits)
  · rintro ⟨filled, all, value⟩
    exact ⟨s, filled, .inl rfl, all, value⟩

theorem read_eq_ok_iff : read s = .ok n ↔ Denotes s n := by
  unfold read
  split
  · simp [denotes_unsigned_iff]
  · simp [denotes_signed_iff]
  · next s alone =>
    rw [denotes_signed_iff]
    exact ⟨fun h => ⟨fun empty => alone (by rw [empty]), h⟩, And.right⟩
  · next s empty _ unsigned =>
    rw [denotes_unsigned_iff unsigned]
    exact ⟨fun h => ⟨empty, h⟩, And.right⟩

/-- A number in decimal, as it is written. -/
theorem denotes_toDigits (h : n < 2 ^ 64) : Denotes (Nat.toDigits 10 n) n :=
  ⟨_, Nat.toDigits_ne_nil, .inl rfl,
    fun _ hc => Nat.isDigit_of_mem_toDigits (by decide) (by decide) hc,
    Nat.ofDigitChars_ten_toDigits, h⟩

end TokenSurvey.Text.Numeral
